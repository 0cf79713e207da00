import Enlistment.Placeholder.Store
import Enlistment.Proofs.Store.Statements
import Enlistment.Proofs.Text.Ascii
import Mathlib.Data.List.TakeWhile

/-!
What tells placeholders apart. The memory of a user goes by the path with `A` to `Z` in lowercase,
the table by its own key, which stops at a zero character. Paths without one are told apart alike.
-/

namespace Enlistment

open Enlistment.Text (asciiLowercase)

namespace PlaceholderKey

/-- The key of a path can be read off the path in lowercase. -/
theorem ofPath_eq (path : String) :
    ofPath path =
      ⟨String.ofList ((asciiLowercase path).toList.takeWhile (· != '\x00')),
        (asciiLowercase path).utf8ByteSize⟩ := by
  have kept : ((· != '\x00') ∘ Char.toLower) = fun character : Char => character != '\x00' := by
    funext character
    rw [Function.comp_apply, Bool.eq_iff_iff, bne_iff_ne, bne_iff_ne, ne_eq,
      Text.toLower_eq_zero_iff]
  rw [Text.utf8ByteSize_asciiLowercase, asciiLowercase, String.toList_ofList, List.takeWhile_map, kept]
  rfl

theorem ofPath_congr {left right : String} (same : asciiLowercase left = asciiLowercase right) :
    ofPath left = ofPath right := by
  rw [ofPath_eq, ofPath_eq, same]

/-- Paths that the table tells apart whenever they differ in more than case. -/
def TellsApart (paths : Set String) : Prop :=
  ∀ left ∈ paths, ∀ right ∈ paths, ofPath left = ofPath right →
    asciiLowercase left = asciiLowercase right

theorem text_ofPath_of_zeroFree {path : String} (zeroFree : '\x00' ∉ path.toList) :
    (ofPath path).text = asciiLowercase path := by
  have whole : path.toList.takeWhile (· != '\x00') = path.toList := by
    apply List.takeWhile_eq_self_iff.mpr
    intro character member
    refine bne_iff_ne.mpr ?_
    rintro rfl
    exact zeroFree member
  rw [ofPath, whole, asciiLowercase]

theorem tellsApart_of_zeroFree {paths : Set String}
    (zeroFree : ∀ path ∈ paths, '\x00' ∉ path.toList) : TellsApart paths := by
  intro left leftIn right rightIn same
  rw [← text_ofPath_of_zeroFree (zeroFree left leftIn), same,
    text_ofPath_of_zeroFree (zeroFree right rightIn)]

instance : IsStrictTotalOrder PlaceholderKey (· < ·) where
  irrefl := lt_irrefl
  trichotomous left right notBefore notBehind := by
    have text : left.text = right.text := by
      apply String.le_antisymm
      · exact String.not_lt.mp fun behind => notBehind (.inl behind)
      · exact String.not_lt.mp fun before => notBefore (.inl before)
    have size : left.size = right.size := by
      have above : ¬ left.size < right.size := fun smaller => notBefore (.inr ⟨text, smaller⟩)
      have below : ¬ right.size < left.size := fun smaller => notBehind (.inr ⟨text.symm, smaller⟩)
      omega
    cases left
    cases right
    simp_all
  trans first second third := by
    rintro (earlier | ⟨text, smaller⟩) (later | ⟨sameText, larger⟩)
    · exact .inl (String.lt_trans earlier later)
    · exact .inl (sameText ▸ earlier)
    · exact .inl (text ▸ later)
    · exact .inr ⟨text.trans sameText, by omega⟩

end PlaceholderKey

end Enlistment
