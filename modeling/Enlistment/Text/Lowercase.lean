import Enlistment.Text.Lowercase.Table

/-!
Lowercase text. Every character is replaced by its lowercase form, which for one character is two
characters long, and a capital sigma at the end of a word becomes the final small sigma.
-/

namespace Enlistment.Text

def isCased (character : Char) : Bool :=
  isInRanges casedRanges character

def isCaseIgnorable (character : Char) : Bool :=
  isInRanges caseIgnorableRanges character

def lowercaseForm (character : Char) : List Char :=
  if character.toNat < 0x80 then [character.toLower]
  else if character = 'İ' then ['i', '\u0307']
  else
    match lowercaseRuns.find? (·.contains character.toNat) with
    | some run => [Char.ofNat (run.target + (character.toNat - run.first))]
    | none => [character]

def meetsCased : List Char → Bool
  | [] => false
  | character :: rest =>
      if isCaseIgnorable character then meetsCased rest else isCased character

/-- Lowercases `rest`; `before` holds the characters already passed, the last one first. -/
def lowercaseAfter (before : List Char) : List Char → List Char
  | [] => []
  | character :: rest =>
      (if character = 'Σ' then
        [if meetsCased before && !meetsCased rest then 'ς' else 'σ']
      else lowercaseForm character) ++ lowercaseAfter (character :: before) rest

def lowercase (text : String) : String :=
  String.ofList (lowercaseAfter [] text.toList)

end Enlistment.Text
