import Enlistment.Proofs.Path.CaseKey

/-!
Paths that differ in the case of the letters `A` to `Z` only. Lowercase text does not tell them
apart, so they name the same entry.
-/

namespace Enlistment

open Enlistment.Text

namespace Text

/-- What is the same for each of the letters `A` to `Z` and its lowercase form is the same for every
character and its lowercase form. -/
theorem toLower_keeps {Value : Type} (value : Char → Value)
    (kept : ∀ offset : Fin 26, value (Char.ofNat (65 + offset)).toLower =
      value (Char.ofNat (65 + offset))) (character : Char) :
    value character.toLower = value character := by
  rcases toLower_cases character with same | ⟨least, greatest, _⟩
  · rw [same]
  · have letter := kept ⟨character.toNat - 65, by omega⟩
    have code : 65 + (character.toNat - 65) = character.toNat := by omega
    rwa [code, Char.ofNat_toNat] at letter

@[simp]
theorem isCased_toLower (character : Char) : isCased character.toLower = isCased character := by
  exact toLower_keeps _ (by decide +kernel) character

@[simp]
theorem isCaseIgnorable_toLower (character : Char) :
    isCaseIgnorable character.toLower = isCaseIgnorable character := by
  exact toLower_keeps _ (by decide +kernel) character

@[simp]
theorem lowercaseForm_toLower (character : Char) :
    lowercaseForm character.toLower = lowercaseForm character := by
  exact toLower_keeps _ (by decide +kernel) character

@[simp]
theorem toLower_eq_sigma_iff (character : Char) : character.toLower = 'Σ' ↔ character = 'Σ' := by
  exact iff_of_eq (toLower_keeps (· = 'Σ') (by decide +kernel) character)

@[simp]
theorem meetsCased_map_toLower (text : List Char) :
    meetsCased (text.map Char.toLower) = meetsCased text := by
  induction text with
  | nil => rfl
  | cons character rest ih =>
      simp [meetsCased, ih]

theorem lowercaseAfter_map_toLower (before text : List Char) :
    lowercaseAfter (before.map Char.toLower) (text.map Char.toLower) =
      lowercaseAfter before text := by
  induction text generalizing before with
  | nil => rfl
  | cons character rest ih =>
      have next := ih (character :: before)
      rw [List.map_cons] at next
      simp only [List.map_cons, lowercaseAfter, toLower_eq_sigma_iff, lowercaseForm_toLower,
        meetsCased_map_toLower, next]

@[simp]
theorem lowercase_asciiLowercase (text : String) : lowercase (asciiLowercase text) = lowercase text := by
  rw [lowercase, lowercase, asciiLowercase, String.toList_ofList]
  exact congrArg String.ofList (lowercaseAfter_map_toLower [] text.toList)

end Text

namespace Path

@[simp]
theorem trimSeparators_map_toLower (path : List Char) :
    trimSeparators (path.map Char.toLower) = (trimSeparators path).map Char.toLower := by
  have same : (· == separator) ∘ Char.toLower = (· == separator) := by
    funext character
    exact toLower_keeps (· == separator) (by decide) character
  simp only [trimSeparators, List.dropWhile_map, ← List.map_reverse, same]

theorem normalizeEntry_asciiLowercase (path : String) (isFolder : Bool) :
    normalizeEntry (asciiLowercase path) isFolder = asciiLowercase (normalizeEntry path isFolder) := by
  have slash : separator.toLower = separator := by decide
  cases isFolder <;>
    simp [normalizeEntry, asciiLowercase, slash]

variable {left right : String} (same : asciiLowercase left = asciiLowercase right)

include same

theorem caseKey_eq_of_asciiLowercase_eq : caseKey left = caseKey right := by
  rw [caseKey, ← lowercase_asciiLowercase, same, lowercase_asciiLowercase]
  rfl

theorem caseKey_normalizeEntry_eq (isFolder : Bool) :
    caseKey (normalizeEntry left isFolder) = caseKey (normalizeEntry right isFolder) := by
  apply caseKey_eq_of_asciiLowercase_eq
  rw [← normalizeEntry_asciiLowercase, same, normalizeEntry_asciiLowercase]

end Path

end Enlistment
