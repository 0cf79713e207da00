import Enlistment.Proofs.ModifiedPaths.Coverage
import Mathlib.Data.List.DropRight

/-!
The empty entry. It is what a path of separators alone comes to when a file is named, it is its own
case key and nobody else's, and no folder is above it. So it is in a set of modified paths exactly
when it was read or recorded.
-/

namespace Enlistment

namespace Path

def IsBlank (path : String) : Prop :=
  ∀ character ∈ path.toList, character = separator

instance (path : String) : Decidable (IsBlank path) :=
  decidable_of_iff (path.toList.all (· == separator) = true) (by simp [IsBlank])

theorem trimSeparators_eq_nil_iff (path : List Char) :
    trimSeparators path = [] ↔ ∀ character ∈ path, character = separator := by
  rw [trimSeparators, List.reverse_eq_nil_iff, List.dropWhile_eq_nil_iff]
  constructor
  · intro ending
    have rest : path.dropWhile (· == separator) = [] := by
      rw [← List.dropWhile_idempotent, List.dropWhile_eq_nil_iff]
      exact fun character member => ending character (List.mem_reverse.mpr member)
    simpa using List.dropWhile_eq_nil_iff.mp rest
  · intro blank character member
    have listed := (List.dropWhile_sublist _).subset (List.mem_reverse.mp member)
    simpa using blank character listed

theorem normalizeEntry_eq_empty_iff (path : String) (isFolder : Bool) :
    normalizeEntry path isFolder = "" ↔ isFolder = false ∧ IsBlank path := by
  rw [← String.toList_eq_nil_iff, normalizeEntry, String.toList_ofList, IsBlank,
    ← trimSeparators_eq_nil_iff]
  cases isFolder <;> simp

@[simp]
theorem caseKey_eq_empty_iff (entry : String) : caseKey entry = "" ↔ entry = "" := by
  rw [← String.toList_eq_nil_iff, ← String.toList_eq_nil_iff, toList_caseKey]
  exact lowercaseAfter_eq_nil_iff [] entry.toList

end Path

open Enlistment.Path

namespace ModifiedPaths

theorem empty_mem_all_iff {paths : ModifiedPaths} (wellKeyed : paths.WellKeyed) :
    "" ∈ paths.all ↔ paths.hasKey "" = true := by
  rw [hasKey_iff, all, List.mem_map]
  refine exists_congr fun stored => and_congr_right fun member => ?_
  simp [wellKeyed.keyed stored member]

theorem empty_mem_all_put {paths : ModifiedPaths} (wellKeyed : paths.WellKeyed) (entry : String) :
    "" ∈ (paths.put entry).all ↔ entry = "" ∨ "" ∈ paths.all := by
  rw [empty_mem_all_iff (wellKeyed.put entry), empty_mem_all_iff wellKeyed, hasKey_put, eq_comm,
    caseKey_eq_empty_iff]

theorem empty_mem_all_ofEntries (entries : List String) :
    "" ∈ (ofEntries entries).all ↔ "" ∈ entries := by
  rw [empty_mem_all_iff (wellKeyed_ofEntries entries), hasKey_ofEntries]
  simp

theorem covers_empty_iff {paths : ModifiedPaths} (wellKeyed : paths.WellKeyed) :
    paths.covers "" = true ↔ "" ∈ paths.all := by
  have noFolders : paths.hasAncestor "" = false := rfl
  rw [empty_mem_all_iff wellKeyed, covers, noFolders, Bool.or_false]
  rfl

end ModifiedPaths

namespace ModifiedPathsStore

/-- On an open store the empty entry comes into the set by being recorded. -/
theorem empty_mem_addEntry {store : ModifiedPathsStore}
    (isOpen : store.database.isShutDown = false) (wellKeyed : store.paths.WellKeyed)
    (entry : String) :
    "" ∈ (store.addEntry entry).2.paths.all ↔ entry = "" ∨ "" ∈ store.paths.all := by
  rcases addEntry_cases entry store with ⟨covered, same⟩ | ⟨_, _, added⟩ | ⟨_, closed, _⟩
  · rw [same]
    refine ⟨.inr, ?_⟩
    rintro (rfl | listed)
    · exact (ModifiedPaths.covers_empty_iff wellKeyed).mp covered
    · exact listed
  · rw [added]
    exact ModifiedPaths.empty_mem_all_put wellKeyed entry
  · exact absurd (isOpen.symm.trans closed) (by simp)

theorem empty_mem_seed (tables : Tables) : "" ∈ (seed tables).1 ↔ "" ∈ tables.modifiedPaths := by
  unfold seed
  split
  · rename_i empty
    simp [List.isEmpty_iff.mp empty, gitAttributes]
  · rfl

end ModifiedPathsStore

end Enlistment
