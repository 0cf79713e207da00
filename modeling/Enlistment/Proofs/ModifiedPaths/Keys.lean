import Enlistment.ModifiedPaths
import Enlistment.Proofs.Path.Ancestors

/-!
The keys of a set of modified paths. What a set covers depends on its keys alone, and each entry
stays under its own case key, which no other entry has.
-/

namespace Enlistment

open Enlistment.Path

namespace ModifiedPaths

theorem hasKey_iff (key : String) (paths : ModifiedPaths) :
    paths.hasKey key = true ↔ ∃ stored ∈ paths.entries, stored.1 = key := by
  simp [hasKey]

theorem hasAncestor_iff (entry : String) (paths : ModifiedPaths) :
    paths.hasAncestor entry = true ↔
      ∃ folder ∈ ancestorFolders entry, paths.hasKey (caseKey folder) = true := by
  simp [hasAncestor]

theorem covers_iff (entry : String) (paths : ModifiedPaths) :
    paths.covers entry = true ↔
      paths.hasKey (caseKey entry) = true ∨ paths.hasAncestor entry = true := by
  simp [covers]

@[simp]
theorem hasKey_empty (key : String) : empty.hasKey key = false := by
  rfl

theorem hasKey_erase (key erased : String) (paths : ModifiedPaths) :
    (paths.erase erased).hasKey key = true ↔ paths.hasKey key = true ∧ key ≠ erased := by
  simp only [hasKey_iff, erase, List.mem_filter, bne_iff_ne]
  constructor
  · rintro ⟨stored, ⟨member, different⟩, same⟩
    subst same
    exact ⟨⟨stored, member, rfl⟩, different⟩
  · rintro ⟨⟨stored, member, same⟩, different⟩
    subst same
    exact ⟨stored, ⟨member, different⟩, rfl⟩

@[simp]
theorem hasKey_put (key entry : String) (paths : ModifiedPaths) :
    (paths.put entry).hasKey key = true ↔ key = caseKey entry ∨ paths.hasKey key = true := by
  have split : (paths.put entry).hasKey key = true ↔
      (paths.erase (caseKey entry)).hasKey key = true ∨ caseKey entry = key := by
    simp [hasKey, put]
  rw [split, hasKey_erase]
  by_cases same : key = caseKey entry
  · simp [same]
  · simp [same, Ne.symm same]

theorem hasKey_foldl_put (key : String) (entries : List String) (paths : ModifiedPaths) :
    (entries.foldl (fun paths entry => paths.put entry) paths).hasKey key = true ↔
      (∃ entry ∈ entries, caseKey entry = key) ∨ paths.hasKey key = true := by
  induction entries generalizing paths with
  | nil => simp
  | cons first rest ih =>
      rw [List.foldl_cons, ih, hasKey_put]
      simp only [List.mem_cons, exists_eq_or_imp, eq_comm (a := key)]
      exact or_left_comm.trans or_assoc.symm

theorem hasKey_ofEntries (key : String) (entries : List String) :
    (ofEntries entries).hasKey key = true ↔ ∃ entry ∈ entries, caseKey entry = key := by
  simp [ofEntries, hasKey_foldl_put]

theorem covers_mono {fewer more : ModifiedPaths}
    (kept : ∀ key, fewer.hasKey key = true → more.hasKey key = true) {entry : String}
    (covered : fewer.covers entry = true) : more.covers entry = true := by
  rw [covers_iff, hasAncestor_iff] at covered ⊢
  rcases covered with own | ⟨folder, above, found⟩
  · exact .inl (kept _ own)
  · exact .inr ⟨folder, above, kept _ found⟩

theorem covers_congr {left right : ModifiedPaths}
    (same : ∀ key, left.hasKey key = true ↔ right.hasKey key = true) (entry : String) :
    left.covers entry = right.covers entry := by
  rw [Bool.eq_iff_iff]
  exact ⟨covers_mono fun key => (same key).mp, covers_mono fun key => (same key).mpr⟩

theorem hasAncestor_congr {left right : String} (same : caseKey left = caseKey right)
    (paths : ModifiedPaths) : paths.hasAncestor left = paths.hasAncestor right := by
  have viaKeys : ∀ entry, paths.hasAncestor entry =
      ((ancestorFolders entry).map caseKey).any fun key => paths.hasKey key := by
    intro entry
    rw [List.any_map]
    rfl
  rw [viaKeys, viaKeys, map_caseKey_ancestorFolders_congr same]

theorem covers_congr_entry {left right : String} (same : caseKey left = caseKey right)
    (paths : ModifiedPaths) : paths.covers left = paths.covers right := by
  rw [covers, covers, same, hasAncestor_congr same]

/-- What covers a folder covers everything below it. -/
theorem covers_below {folder entry : String} {paths : ModifiedPaths}
    (above : folder ∈ ancestorFolders entry) (covered : paths.covers folder = true) :
    paths.covers entry = true := by
  rw [covers_iff, hasAncestor_iff] at covered ⊢
  rcases covered with own | ⟨outer, outside, found⟩
  · exact .inr ⟨folder, above, own⟩
  · exact .inr ⟨outer, mem_ancestorFolders_trans outside above, found⟩

@[simp]
theorem covers_put_self (entry : String) (paths : ModifiedPaths) :
    (paths.put entry).covers entry = true := by
  exact (covers_iff _ _).mpr (.inl ((hasKey_put _ _ _).mpr (.inl rfl)))

theorem hasKey_put_of_hasKey {key : String} (entry : String) {paths : ModifiedPaths}
    (found : paths.hasKey key = true) : (paths.put entry).hasKey key = true := by
  exact (hasKey_put _ _ _).mpr (.inr found)

structure WellKeyed (paths : ModifiedPaths) : Prop where
  keyed : ∀ stored ∈ paths.entries, stored.1 = caseKey stored.2
  distinct : (paths.entries.map (·.1)).Nodup

theorem wellKeyed_empty : empty.WellKeyed := by
  exact ⟨by simp [empty], by simp [empty]⟩

theorem WellKeyed.erase {paths : ModifiedPaths} (wellKeyed : paths.WellKeyed) (key : String) :
    (paths.erase key).WellKeyed := by
  constructor
  · exact fun stored member => wellKeyed.keyed stored (List.mem_filter.mp member).1
  · exact (List.filter_sublist.map _).nodup wellKeyed.distinct

theorem WellKeyed.put {paths : ModifiedPaths} (wellKeyed : paths.WellKeyed) (entry : String) :
    (paths.put entry).WellKeyed := by
  have rest := wellKeyed.erase (caseKey entry)
  constructor
  · intro stored member
    rcases List.mem_append.mp member with old | new
    · exact rest.keyed stored old
    · rw [List.mem_singleton.mp new]
  · simp only [ModifiedPaths.put, List.map_append, List.map_cons, List.map_nil]
    refine List.nodup_append.mpr ⟨rest.distinct, by simp, ?_⟩
    intro key member other same
    obtain ⟨stored, left, rfl⟩ := List.mem_map.mp member
    rw [List.mem_singleton.mp same]
    simpa using (List.mem_filter.mp left).2

theorem wellKeyed_ofEntries (entries : List String) : (ofEntries entries).WellKeyed := by
  exact List.foldlRecOn entries _ wellKeyed_empty fun _ wellKeyed entry _ => wellKeyed.put entry

theorem mem_put {stored : String × String} {entry : String} {paths : ModifiedPaths}
    (member : stored ∈ (paths.put entry).entries) :
    stored ∈ paths.entries ∨ stored = (caseKey entry, entry) := by
  rcases List.mem_append.mp member with old | new
  · exact .inl (List.mem_filter.mp old).1
  · exact .inr (List.mem_singleton.mp new)

theorem mem_of_mem_ofEntries {stored : String × String} {entries : List String}
    (member : stored ∈ (ofEntries entries).entries) : stored.2 ∈ entries := by
  have inside : ∀ stored ∈ (ofEntries entries).entries, stored.2 ∈ entries := by
    refine List.foldlRecOn entries _ (motive := fun paths : ModifiedPaths =>
      ∀ stored ∈ paths.entries, stored.2 ∈ entries) (by simp [empty]) ?_
    intro paths known entry listed stored member
    rcases mem_put member with old | new
    · exact known stored old
    · rw [new]
      exact listed
  exact inside stored member

theorem nodup_all {paths : ModifiedPaths} (wellKeyed : paths.WellKeyed) : paths.all.Nodup := by
  have keys : paths.entries.map (·.1) = paths.all.map caseKey := by
    rw [all, List.map_map]
    exact List.map_congr_left wellKeyed.keyed
  have distinct := wellKeyed.distinct
  rw [keys] at distinct
  exact List.Pairwise.of_map caseKey
    (fun _ _ different same => different (congrArg caseKey same)) distinct

end ModifiedPaths

end Enlistment
