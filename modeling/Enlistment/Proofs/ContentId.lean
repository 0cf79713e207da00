import Enlistment.ContentId
import Enlistment.Proofs.Control.Framing

/-!
Which texts are object ids. A text is read as one exactly if it is forty hexadecimal digits, and
otherwise the fault is told in bytes: how many there are, or the first that is no digit. Characters
that are more than one byte long are no digits, and neither is any of their bytes.
-/

namespace Enlistment.ContentId

open Text (isHexDigit)

def IsWritten (text : String) : Prop :=
  text.toList.length = length ∧ ∀ character ∈ text.toList, isHexDigit character = true

instance (text : String) : Decidable (IsWritten text) :=
  inferInstanceAs (Decidable (_ ∧ _))

def isHexByte (byte : UInt8) : Bool :=
  isHexDigit (Char.ofNat byte.toNat)

def bytesOf (text : String) : List UInt8 :=
  text.toUTF8.data.toList

structure FirstOffending (bytes : List UInt8) (byte : UInt8) (position : Nat) : Prop where
  there : bytes[position]? = some byte
  offends : isHexByte byte = false
  first : ∀ earlier < position, ∃ digit, bytes[earlier]? = some digit ∧ isHexByte digit = true

def Fault (text : String) : ContentIdError → Prop
  | .invalidLength bytes => (bytesOf text).length ≠ length ∧ bytes = (bytesOf text).length
  | .invalidHex byte position =>
      (bytesOf text).length = length ∧ FirstOffending (bytesOf text) byte position

section Bytes

variable {text : String} {character : Char} {byte other : UInt8} {bytes : List UInt8}
  {position elsewhere : Nat}

theorem FirstOffending.unique (first : FirstOffending bytes byte position)
    (second : FirstOffending bytes other elsewhere) : byte = other ∧ position = elsewhere := by
  have earliest : ∀ {one another : UInt8} {here there : Nat}, FirstOffending bytes one here →
      FirstOffending bytes another there → here ≤ there := by
    intro one another here there earlier later
    apply Nat.le_of_not_lt
    intro before
    obtain ⟨digit, found, isDigit⟩ := earlier.first there before
    obtain rfl := Option.some.inj (found.symm.trans later.there)
    exact absurd (isDigit.symm.trans later.offends) (by decide)
  obtain rfl := Nat.le_antisymm (earliest first second) (earliest second first)
  exact ⟨Option.some.inj (first.there.symm.trans second.there), rfl⟩

theorem bytesOf_eq (text : String) : bytesOf text = text.toList.flatMap String.utf8EncodeChar := by
  have encoded : text.toUTF8 = (text.toList.flatMap String.utf8EncodeChar).toByteArray := by
    conv => lhs; rw [← String.ofList_toList (s := text)]
    rfl
  rw [bytesOf, encoded, List.data_toByteArray, List.toList_toArray]

@[simp]
theorem length_bytesOf (text : String) : (bytesOf text).length = text.utf8ByteSize := by
  rfl

theorem toNat_lt_of_isHexDigit (digit : isHexDigit character = true) : character.toNat < 128 := by
  have small := Char.utf8Size_eq_one_iff.mp (utf8Size_of_isHexDigit digit)
  exact Nat.lt_succ_of_le (UInt32.le_iff_toNat_le.mp small)

theorem bytes_of_isHexDigit (digit : isHexDigit character = true) :
    ∃ byte, String.utf8EncodeChar character = [byte] ∧ isHexByte byte = true := by
  refine ⟨_, String.utf8EncodeChar_eq_singleton (utf8Size_of_isHexDigit digit), ?_⟩
  have code : character.val.toUInt8.toNat = character.toNat := by
    have below := toNat_lt_of_isHexDigit digit
    rw [UInt32.toNat_toUInt8, Char.toNat_val]
    omega
  rw [isHexByte, code, Char.ofNat_toNat, digit]

/-- No byte of a character that is no digit is one. -/
theorem isHexDigit_of_mem_bytes (member : byte ∈ String.utf8EncodeChar character)
    (digit : isHexByte byte = true) : isHexDigit character = true := by
  have code : (Char.ofNat byte.toNat).toNat = byte.toNat := by
    have below := byte.toNat_lt
    have valid : byte.toNat.isValidChar := .inl (by omega)
    rw [Char.ofNat, dif_pos valid]
    rfl
  have ascii := toNat_lt_of_isHexDigit digit
  rw [code] at ascii
  have same := Control.toNat_eq_of_mem_utf8EncodeChar member ascii
  rw [isHexByte, ← same, Char.ofNat_toNat] at digit
  exact digit

theorem firstNonHex_of_all {characters : List Char} (digits : characters.all isHexDigit = true)
    (position : Nat) : firstNonHex position characters = none := by
  induction characters generalizing position with
  | nil => rfl
  | cons character rest ih =>
      simp only [List.all_cons, Bool.and_eq_true] at digits
      rw [firstNonHex, if_pos digits.1]
      exact ih digits.2 _

theorem firstOffending_of_firstNonHex {characters : List Char}
    (found : firstNonHex elsewhere characters = some (character, position)) :
    ∃ distance, position = elsewhere + distance ∧
      FirstOffending (characters.flatMap String.utf8EncodeChar) (leadByte character) distance := by
  induction characters generalizing elsewhere with
  | nil => exact absurd found nofun
  | cons next rest ih =>
      rw [firstNonHex] at found
      rw [List.flatMap_cons]
      split at found
      · rename_i digit
        obtain ⟨distance, rfl, offending⟩ := ih found
        obtain ⟨byte, encoded, isDigit⟩ := bytes_of_isHexDigit digit
        rw [encoded]
        refine ⟨distance + 1, by omega, ?_, offending.offends, ?_⟩
        · simpa using offending.there
        · intro earlier before
          cases earlier with
          | zero => exact ⟨byte, rfl, isDigit⟩
          | succ earlier => simpa using offending.first earlier (by omega)
      · rename_i noDigit
        obtain ⟨rfl, rfl⟩ := Prod.mk.inj (Option.some.inj found)
        obtain ⟨lead, others, encoded⟩ :=
          List.exists_cons_of_ne_nil (String.utf8EncodeChar_ne_nil (c := next))
        have same : leadByte next = lead := by rw [leadByte, encoded, List.headD_cons]
        refine ⟨0, rfl, ?_, ?_, fun earlier before => absurd before (Nat.not_lt_zero _)⟩
        · rw [encoded, same]
          rfl
        · refine Bool.eq_false_iff.mpr fun digit => noDigit ?_
          exact isHexDigit_of_mem_bytes (encoded ▸ same ▸ List.mem_cons_self) digit

theorem not_firstOffending_of_all {characters : List Char}
    (digits : characters.all isHexDigit = true) :
    ¬FirstOffending (characters.flatMap String.utf8EncodeChar) byte position := by
  intro offending
  obtain ⟨character, listed, member⟩ :=
    List.mem_flatMap.mp (List.mem_of_getElem? offending.there)
  obtain ⟨digit, encoded, isDigit⟩ := bytes_of_isHexDigit (List.all_eq_true.mp digits character listed)
  rw [encoded, List.mem_singleton] at member
  exact absurd (member ▸ offending.offends) (by simp [isDigit])

end Bytes

@[simp]
theorem parse_text (id : ContentId) : parse id.text = .ok id := by
  have sized : id.text.utf8ByteSize = length :=
    (length_eq_of_all_isHexDigit id.isHex).symm.trans id.hasLength
  rw [parse, dif_pos sized]
  split
  · rename_i character position found
    rw [firstNonHex_of_all id.isHex] at found
    exact absurd found (by simp)
  · rfl

theorem parse_eq_ok_iff {text : String} {id : ContentId} : parse text = .ok id ↔ id.text = text := by
  constructor
  · intro read
    unfold parse at read
    split at read
    · split at read
      · exact absurd read nofun
      · exact congrArg ContentId.text (Except.ok.inj read).symm
    · exact absurd read nofun
  · rintro rfl
    exact parse_text id

/-- A text is read as an id exactly if it is one. -/
theorem exists_parse_iff {text : String} : (∃ id, parse text = .ok id) ↔ IsWritten text := by
  constructor
  · rintro ⟨id, read⟩
    obtain rfl := parse_eq_ok_iff.mp read
    exact ⟨id.hasLength, List.all_eq_true.mp id.isHex⟩
  · rintro ⟨sized, digits⟩
    exact ⟨⟨text, List.all_eq_true.mpr digits, sized⟩, parse_eq_ok_iff.mpr rfl⟩

theorem parse_eq_error_iff {text : String} {error : ContentIdError} :
    parse text = .error error ↔ Fault text error := by
  by_cases sized : text.utf8ByteSize = length
  · rw [parse, dif_pos sized]
    split
    · rename_i character position found
      obtain ⟨distance, spelled, offending⟩ := firstOffending_of_firstNonHex found
      obtain rfl : position = distance := by omega
      rw [← bytesOf_eq] at offending
      cases error with
      | invalidLength bytes => simp [Fault, sized]
      | invalidHex byte elsewhere =>
          rw [Except.error.injEq, ContentIdError.invalidHex.injEq]
          constructor
          · rintro ⟨rfl, rfl⟩
            exact ⟨sized, offending⟩
          · rintro ⟨_, another⟩
            exact offending.unique another
    · rename_i absent
      have digits := all_isHexDigit_of_firstNonHex absent
      cases error with
      | invalidLength bytes => simp [Fault, sized]
      | invalidHex byte position => simp [Fault, bytesOf_eq, not_firstOffending_of_all digits]
  · rw [parse, dif_neg sized]
    cases error with
    | invalidLength bytes => simp [Fault, sized, eq_comm]
    | invalidHex byte elsewhere => simp [Fault, sized]

end Enlistment.ContentId
