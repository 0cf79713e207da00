import Enlistment.Text.Ascii

/-!
The letters `A` to `Z` in lowercase. Nothing else is moved, and no letter changes its size.
-/

namespace Enlistment.Text

theorem toLower_cases (character : Char) :
    character.toLower = character ∨
      65 ≤ character.toNat ∧ character.toNat ≤ 90 ∧
        character.toLower.toNat = character.toNat + 32 := by
  unfold Char.toLower
  split
  · rename_i upper
    simp only [ge_iff_le, UInt32.le_iff_toNat_le, Char.toNat_val] at upper
    have least : 'A'.toNat = 65 := rfl
    have greatest : 'Z'.toNat = 90 := rfl
    have moved : (character.val + ('a'.val - 'A'.val)).toNat = character.toNat + 32 := by
      simp [UInt32.toNat_add]
      omega
    exact .inr ⟨by omega, by omega, moved⟩
  · exact .inl rfl

@[simp]
theorem toLower_eq_zero_iff (character : Char) : character.toLower = '\x00' ↔ character = '\x00' := by
  rcases toLower_cases character with same | ⟨least, _, moved⟩
  · rw [same]
  · have zero : '\x00'.toNat = 0 := rfl
    constructor
    · intro folded
      rw [folded] at moved
      omega
    · intro own
      rw [own] at least
      omega

@[simp]
theorem utf8Size_toLower (character : Char) : character.toLower.utf8Size = character.utf8Size := by
  rcases toLower_cases character with same | ⟨_, greatest, moved⟩
  · rw [same]
  · have narrow : ∀ {letter : Char}, letter.toNat ≤ 127 → letter.utf8Size = 1 := by
      intro letter below
      exact Char.utf8Size_eq_one_iff.mpr (UInt32.le_iff_toNat_le.mpr below)
    rw [narrow (by omega), narrow (by omega)]

@[simp]
theorem utf8ByteSize_asciiLowercase (text : String) :
    (asciiLowercase text).utf8ByteSize = text.utf8ByteSize := by
  have sizes : ∀ characters : List Char,
      (String.ofList (characters.map Char.toLower)).utf8ByteSize =
        (String.ofList characters).utf8ByteSize := by
    intro characters
    induction characters with
    | nil => rfl
    | cons character rest ih =>
        simp [String.ofList_cons, String.utf8ByteSize_append, ih]
  simpa [asciiLowercase] using sizes text.toList

end Enlistment.Text
