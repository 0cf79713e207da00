import Enlistment.Text.Ascii

/-!
Sets of characters as ranges of their codes. Tables of codes are kept as text: entries with blanks
between them, in hexadecimal, where a hyphen joins the first and the last code of a range.
-/

namespace Enlistment.Text

structure CodeRange where
  first : Nat
  last : Nat

def CodeRange.contains (range : CodeRange) (code : Nat) : Bool :=
  decide (range.first ≤ code) && decide (code ≤ range.last)

def tableEntries (table : String) : List (List Char) :=
  (table.toList.splitOnP fun character => character == ' ' || character == '\n').filter
    (!·.isEmpty)

/-- Reads one code, or two with a hyphen between them. -/
def CodeRange.ofEntry (entry : List Char) : CodeRange :=
  let first := entry.takeWhile (· != '-')
  let last := entry.drop (first.length + 1)
  ⟨valueOf 16 first, valueOf 16 (if last.isEmpty then first else last)⟩

def CodeRange.ofTable (table : String) : List CodeRange :=
  (tableEntries table).map CodeRange.ofEntry

def charactersOfEntry (entry : List Char) : List Char :=
  (entry.splitOn '.').map fun code => Char.ofNat (valueOf 16 code)

def isInRanges (ranges : List CodeRange) (character : Char) : Bool :=
  ranges.any (·.contains character.toNat)

end Enlistment.Text
