import Enlistment.Text.Ascii

/-!
Object ids: forty hexadecimal digits. The case of the digits is kept, but objects are named in
lowercase.
-/

namespace Enlistment

open Text (isHexDigit)

def ContentId.length : Nat := 40

structure ContentId where
  text : String
  isHex : text.toList.all isHexDigit = true
  hasLength : text.toList.length = ContentId.length
deriving DecidableEq

inductive ContentIdError where
  | invalidLength (bytes : Nat)
  | invalidHex (byte : UInt8) (position : Nat)
deriving DecidableEq

namespace ContentIdError

def message : ContentIdError → String
  | invalidLength bytes => s!"content id must be {ContentId.length} characters, got {bytes}"
  | invalidHex byte position =>
      "content id is not hex: Invalid character " ++ Text.quotedByte byte ++
        " at position " ++ toString position

end ContentIdError

namespace ContentId

def leadByte (character : Char) : UInt8 :=
  (String.utf8EncodeChar character).headD 0

/-- The first character that is no digit. Every character before it is one byte long, so its
position is that of its first byte too. -/
def firstNonHex (position : Nat) : List Char → Option (Char × Nat)
  | [] => none
  | character :: rest =>
      if isHexDigit character then firstNonHex (position + 1) rest else some (character, position)

theorem all_isHexDigit_of_firstNonHex {position : Nat} {characters : List Char}
    (absent : firstNonHex position characters = none) : characters.all isHexDigit = true := by
  induction characters generalizing position with
  | nil => rfl
  | cons character rest ih =>
      simp only [firstNonHex] at absent
      split at absent
      · rename_i digit
        simp [digit, ih absent]
      · cases absent

theorem utf8Size_of_isHexDigit {character : Char} (digit : isHexDigit character = true) :
    character.utf8Size = 1 := by
  have small : character.val ≤ 0x7F := by
    simp only [Text.isHexDigit, Char.isDigit, Bool.or_eq_true, Bool.and_eq_true, decide_eq_true_eq,
      Char.le_def] at digit
    rcases digit with (⟨_, upper⟩ | ⟨_, upper⟩) | ⟨_, upper⟩ <;>
      exact UInt32.le_trans upper (by decide)
  simp [Char.utf8Size, small]

theorem length_eq_of_all_isHexDigit {text : String} (digits : text.toList.all isHexDigit = true) :
    text.toList.length = text.utf8ByteSize := by
  have sizes : ∀ characters : List Char, characters.all isHexDigit = true →
      characters.length = (String.ofList characters).utf8ByteSize := by
    intro characters
    induction characters with
    | nil => simp
    | cons character rest ih =>
        intro all
        simp only [List.all_cons, Bool.and_eq_true] at all
        simp [String.ofList_cons, String.utf8ByteSize_append, ih all.2,
          utf8Size_of_isHexDigit all.1, Nat.add_comm]
  simpa using sizes text.toList digits

def parse (text : String) : Except ContentIdError ContentId :=
  if sized : text.utf8ByteSize = length then
    match found : firstNonHex 0 text.toList with
    | some (character, position) => .error (.invalidHex (leadByte character) position)
    | none =>
        have digits := all_isHexDigit_of_firstNonHex found
        .ok ⟨text, digits, (length_eq_of_all_isHexDigit digits).trans sized⟩
  else .error (.invalidLength text.utf8ByteSize)

def objectName (id : ContentId) : String :=
  Text.asciiLowercase id.text

def looseObjectPath (id : ContentId) : String × String :=
  let name := id.objectName.toList
  (String.ofList (name.take 2), String.ofList (name.drop 2))

instance : ToString ContentId := ⟨text⟩

end ContentId

end Enlistment
