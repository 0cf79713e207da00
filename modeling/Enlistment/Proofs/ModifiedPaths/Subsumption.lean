import Enlistment.Proofs.ModifiedPaths.Mirror
import Enlistment.Proofs.ModifiedPaths.Order

/-!
What a set stores when entries are named one after another. An entry is stored unless it was
subsumed when it was named; so an entry and a folder above it are both stored if the folder was
named later, until the set is compacted.
-/

namespace Enlistment

open Enlistment.Path

namespace Path

def IsAbove (folder entry : String) : Prop :=
  ∃ above ∈ ancestorFolders entry, caseKey above = caseKey folder

def Subsumes (other entry : String) : Prop :=
  caseKey other = caseKey entry ∨ IsAbove other entry

theorem IsAbove.congr_left {folder other entry : String} (above : IsAbove folder entry)
    (same : caseKey other = caseKey folder) : IsAbove other entry := by
  obtain ⟨ancestor, listed, equal⟩ := above
  exact ⟨ancestor, listed, equal.trans same.symm⟩

theorem IsAbove.congr_right {folder entry other : String} (above : IsAbove folder entry)
    (same : caseKey other = caseKey entry) : IsAbove folder other := by
  obtain ⟨ancestor, listed, equal⟩ := above
  have keyed : caseKey ancestor ∈ (ancestorFolders other).map caseKey := by
    rw [map_caseKey_ancestorFolders_congr same]
    exact List.mem_map_of_mem listed
  obtain ⟨otherAncestor, otherListed, otherSame⟩ := List.mem_map.mp keyed
  exact ⟨otherAncestor, otherListed, otherSame.trans equal⟩

theorem IsAbove.depth_lt {folder entry : String} (above : IsAbove folder entry) :
    depth folder < depth entry := by
  obtain ⟨ancestor, listed, same⟩ := above
  rw [← depth_caseKey folder, ← same, depth_caseKey]
  exact depth_lt_of_mem_ancestorFolders listed

theorem Subsumes.congr_left {one other entry : String} (subsumes : Subsumes one entry)
    (same : caseKey other = caseKey one) : Subsumes other entry := by
  rcases subsumes with equal | above
  · exact .inl (same.trans equal)
  · exact .inr (above.congr_left same)

/-- The entry is named, and nothing that subsumes it was named before. -/
def NamedFirst (named : List String) (entry : String) : Prop :=
  ∃ before after, named = before ++ entry :: after ∧ ∀ earlier ∈ before, ¬ Subsumes earlier entry

theorem NamedFirst.mem {named : List String} {entry : String} (first : NamedFirst named entry) :
    entry ∈ named := by
  obtain ⟨before, after, rfl, _⟩ := first
  simp

theorem namedFirst_concat (named : List String) (last entry : String) :
    NamedFirst (named ++ [last]) entry ↔
      NamedFirst named entry ∨ (entry = last ∧ ∀ earlier ∈ named, ¬ Subsumes earlier last) := by
  constructor
  · rintro ⟨before, after, parts, unsubsumed⟩
    rcases List.eq_nil_or_concat after with rfl | ⟨init, final, rfl⟩
    · obtain ⟨rfl, ends⟩ := List.append_inj' parts rfl
      obtain rfl := (List.singleton_inj.mp ends).symm
      exact .inr ⟨rfl, unsubsumed⟩
    · rw [List.concat_eq_append, ← List.cons_append, ← List.append_assoc] at parts
      exact .inl ⟨before, init, (List.append_inj' parts rfl).1, unsubsumed⟩
  · rintro (⟨before, after, rfl, unsubsumed⟩ | ⟨rfl, unsubsumed⟩)
    · exact ⟨before, after ++ [last], by simp, unsubsumed⟩
    · exact ⟨named, [], rfl, unsubsumed⟩

end Path

namespace ModifiedPaths

variable {paths : ModifiedPaths}

theorem hasAncestor_iff_isAbove (entry : String) :
    paths.hasAncestor entry = true ↔
      ∃ folder, paths.hasKey (caseKey folder) = true ∧ IsAbove folder entry := by
  rw [hasAncestor_iff]
  constructor
  · rintro ⟨folder, above, found⟩
    exact ⟨folder, found, folder, above, rfl⟩
  · rintro ⟨folder, found, ancestor, above, same⟩
    exact ⟨ancestor, above, same ▸ found⟩

theorem covers_iff_subsumes (entry : String) :
    paths.covers entry = true ↔
      ∃ other, paths.hasKey (caseKey other) = true ∧ Subsumes other entry := by
  rw [covers_iff, hasAncestor_iff_isAbove]
  constructor
  · rintro (own | ⟨folder, found, above⟩)
    · exact ⟨entry, own, .inl rfl⟩
    · exact ⟨folder, found, .inr above⟩
  · rintro ⟨other, found, same | above⟩
    · exact .inl (same ▸ found)
    · exact .inr ⟨other, found, above⟩

theorem covers_of_subsumes {other entry : String} (covered : paths.covers other = true)
    (subsumes : Subsumes other entry) : paths.covers entry = true := by
  rcases subsumes with same | ⟨above, listed, same⟩
  · rwa [← covers_congr_entry same]
  · rw [← covers_congr_entry same] at covered
    exact covers_below listed covered

/-- After a compaction no entry is stored alongside a folder above it. -/
theorem hasAncestor_compacted (wellKeyed : paths.WellKeyed) {entry : String}
    (listed : entry ∈ paths.compacted.all) : paths.compacted.hasAncestor entry = false := by
  obtain ⟨stored, member, rfl⟩ := List.mem_map.mp listed
  have kept : paths.compacted.hasKey (caseKey stored.2) = true :=
    (hasKey_iff _ _).mpr ⟨stored, member, wellKeyed.compacted.keyed stored member⟩
  have needed := ((hasKey_compacted_iff wellKeyed stored.2).mp kept).2
  rw [Bool.eq_false_iff]
  intro redundant
  obtain ⟨folder, above, found⟩ := (hasAncestor_iff _ _).mp redundant
  exact needed ((hasAncestor_iff _ _).mpr
    ⟨folder, above, ((hasKey_foldl_erase _ _ _).mp found).1⟩)

end ModifiedPaths

namespace ModifiedPathsStore

structure Follows (named : List String) (store : ModifiedPathsStore) : Prop where
  mirrored : store.Mirrored
  isOpen : store.database.isShutDown = false
  keys : ∀ key, store.paths.hasKey key = true ↔ ∃ entry, NamedFirst named entry ∧ caseKey entry = key
  covered : ∀ entry ∈ named, store.paths.covers entry = true

namespace Follows

variable {named : List String} {store : ModifiedPathsStore}

theorem covers_iff (follows : store.Follows named) (entry : String) :
    store.paths.covers entry = true ↔ ∃ other ∈ named, Subsumes other entry := by
  constructor
  · intro covered
    obtain ⟨key, found, subsumes⟩ := (ModifiedPaths.covers_iff_subsumes entry).mp covered
    obtain ⟨other, first, same⟩ := (follows.keys _).mp found
    exact ⟨other, first.mem, subsumes.congr_left same⟩
  · rintro ⟨other, listed, subsumes⟩
    exact ModifiedPaths.covers_of_subsumes (follows.covered other listed) subsumes

theorem addEntry (follows : store.Follows named) (entry : String) :
    (store.addEntry entry).2.Follows (named ++ [entry]) := by
  have mirrored := follows.mirrored.addEntry entry
  rcases addEntry_cases entry store with ⟨covered, same⟩ | ⟨uncovered, _, added⟩ | ⟨_, closed, _⟩
  · rw [same]
    obtain ⟨other, listed, subsumes⟩ := (follows.covers_iff entry).mp covered
    refine ⟨follows.mirrored, follows.isOpen, ?_, ?_⟩
    · intro key
      have later : ∀ first, NamedFirst (named ++ [entry]) first ↔ NamedFirst named first := by
        intro first
        rw [namedFirst_concat]
        exact or_iff_left fun last => last.2 other listed subsumes
      simp only [later, follows.keys key]
    · intro first member
      rcases List.mem_append.mp member with old | new
      · exact follows.covered first old
      · rw [List.mem_singleton.mp new]
        exact covered
  · rw [added] at mirrored ⊢
    have unsubsumed : ∀ earlier ∈ named, ¬ Subsumes earlier entry := by
      intro earlier listed subsumes
      have covered := (follows.covers_iff entry).mpr ⟨earlier, listed, subsumes⟩
      rw [uncovered] at covered
      exact absurd covered (by simp)
    refine ⟨mirrored, (Pool.isShutDown_used _).trans follows.isOpen, ?_, ?_⟩
    · intro key
      rw [ModifiedPaths.hasKey_put, follows.keys]
      constructor
      · rintro (rfl | ⟨first, found, same⟩)
        · exact ⟨entry, (namedFirst_concat _ _ _).mpr (.inr ⟨rfl, unsubsumed⟩), rfl⟩
        · exact ⟨first, (namedFirst_concat _ _ _).mpr (.inl found), same⟩
      · rintro ⟨first, found, same⟩
        rcases (namedFirst_concat _ _ _).mp found with old | ⟨rfl, _⟩
        · exact .inr ⟨first, old, same⟩
        · exact .inl same.symm
    · intro first member
      rcases List.mem_append.mp member with old | new
      · exact ModifiedPaths.covers_mono (fun _ => ModifiedPaths.hasKey_put_of_hasKey entry)
          (follows.covered first old)
      · rw [List.mem_singleton.mp new]
        simp
  · exact absurd (follows.isOpen.symm.trans closed) (by simp)

/-- Nothing else that happens to the store matters. -/
theorem setDatabase (follows : store.Follows named) {database : Database}
    (rows : database.tables.modifiedPaths = store.database.tables.modifiedPaths)
    (version : database.tables.version = store.database.tables.version)
    (unreadable : database.tables.unreadablePaths = store.database.tables.unreadablePaths)
    (isOpen : database.isShutDown = false) : Follows named ⟨database, store.paths⟩ := by
  have mirrored := follows.mirrored
  refine ⟨⟨mirrored.wellKeyed, ?_, ?_, ?_⟩, isOpen, follows.keys, follows.covered⟩
  · rw [rows]
    exact mirrored.rows
  · rw [version]
    exact mirrored.known
  · rw [unreadable]
    exact mirrored.readable

theorem rows_ne_nil (follows : store.Follows named) (nonempty : named ≠ []) :
    store.database.tables.modifiedPaths ≠ [] := by
  obtain ⟨entry, rest, rfl⟩ := List.exists_cons_of_ne_nil nonempty
  obtain ⟨other, found, _⟩ := (ModifiedPaths.covers_iff_subsumes entry).mp
    (follows.covered entry List.mem_cons_self)
  obtain ⟨stored, member, _⟩ := (ModifiedPaths.hasKey_iff _ _).mp found
  exact List.ne_nil_of_mem (follows.mirrored.rows.subset (List.mem_map_of_mem member))

/-- A set that is read from its rows again follows from the same entries. -/
theorem loaded (follows : store.Follows named) (nonempty : named ≠ []) {database : Database}
    (rows : database.tables.modifiedPaths = store.database.tables.modifiedPaths)
    (known : database.tables.version ≤ Enlistment.schemaVersion)
    (readable : database.tables.unreadablePaths = []) {pool : Pool}
    (isOpen : pool.isShutDown = false) :
    Follows named ⟨⟨(seed database.tables).2, pool⟩, .ofEntries (seed database.tables).1⟩ := by
  have seeded : (seed database.tables).1 = store.database.tables.modifiedPaths := by
    rw [seed, if_neg (by simpa [rows] using follows.rows_ne_nil nonempty), rows]
  have sameKeys : ∀ key,
      (ModifiedPaths.ofEntries (seed database.tables).1).hasKey key = true ↔
        store.paths.hasKey key = true := by
    intro key
    rw [ModifiedPaths.hasKey_ofEntries, seeded, ModifiedPaths.hasKey_iff,
      ModifiedPaths.entries_eq_map_all follows.mirrored.wellKeyed]
    simp [follows.mirrored.rows.mem_iff]
  refine ⟨⟨ModifiedPaths.wellKeyed_ofEntries _, ?_, ?_, ?_⟩, isOpen, ?_, ?_⟩
  · simp [seeded, ModifiedPaths.all_ofEntries follows.mirrored.nodup_map_caseKey_rows]
  · simpa using known
  · simpa using readable
  · exact fun key => (sameKeys key).trans (follows.keys key)
  · intro entry listed
    exact (ModifiedPaths.covers_congr sameKeys entry).trans (follows.covered entry listed)

theorem of_empty {database : Database} (none : database.tables.modifiedPaths = [])
    (known : database.tables.version ≤ Enlistment.schemaVersion)
    (readable : database.tables.unreadablePaths = []) {pool : Pool}
    (isOpen : pool.isShutDown = false) :
    Follows [gitAttributes]
      ⟨⟨(seed database.tables).2, pool⟩, .ofEntries (seed database.tables).1⟩ := by
  have seeded : (seed database.tables).1 = [gitAttributes] := by
    rw [seed, if_pos (by simp [none])]
  refine ⟨⟨ModifiedPaths.wellKeyed_ofEntries _, ?_, ?_, ?_⟩, isOpen, ?_, ?_⟩
  · have distinct : ([gitAttributes].map caseKey).Nodup := List.nodup_singleton _
    simp [seeded, ModifiedPaths.all_ofEntries distinct]
  · simpa using known
  · simpa using readable
  · intro key
    have only : ∀ entry, NamedFirst [gitAttributes] entry ↔ entry = gitAttributes := by
      intro entry
      rw [← List.nil_append [gitAttributes], namedFirst_concat]
      simp [NamedFirst]
    simp only [seeded, ModifiedPaths.hasKey_ofEntries, only, List.mem_singleton]
  · intro entry listed
    rw [seeded]
    exact covers_loaded listed

/-- An entry and a folder above it are both stored exactly if the folder was named when the entry
was stored already. -/
theorem redundant_iff (follows : store.Follows named) :
    (∃ entry ∈ store.paths.all, store.paths.hasAncestor entry = true) ↔
      ∃ before entry after, named = before ++ entry :: after ∧
        (∀ earlier ∈ before, ¬ Subsumes earlier entry) ∧
        ∃ folder ∈ after, IsAbove folder entry := by
  constructor
  · rintro ⟨spelling, listed, redundant⟩
    obtain ⟨stored, member, rfl⟩ := List.mem_map.mp listed
    have keyed := follows.mirrored.wellKeyed.keyed stored member
    obtain ⟨entry, ⟨before, after, parts, unsubsumed⟩, same⟩ :=
      (follows.keys stored.1).mp ((ModifiedPaths.hasKey_iff _ _).mpr ⟨stored, member, rfl⟩)
    obtain ⟨key, found, above⟩ := (ModifiedPaths.hasAncestor_iff_isAbove _).mp redundant
    obtain ⟨folder, first, sameFolder⟩ := (follows.keys _).mp found
    have aboveEntry : IsAbove folder entry :=
      (above.congr_left sameFolder).congr_right (same.trans keyed)
    refine ⟨before, entry, after, parts, unsubsumed, folder, ?_, aboveEntry⟩
    have position := first.mem
    rw [parts, List.mem_append, List.mem_cons] at position
    rcases position with earlier | rfl | later
    · exact absurd (.inr aboveEntry) (unsubsumed folder earlier)
    · exact absurd aboveEntry.depth_lt (Nat.lt_irrefl _)
    · exact later
  · rintro ⟨before, entry, after, parts, unsubsumed, folder, later, above⟩
    have found : store.paths.hasKey (caseKey entry) = true :=
      (follows.keys _).mpr ⟨entry, ⟨before, after, parts, unsubsumed⟩, rfl⟩
    obtain ⟨stored, member, same⟩ := (ModifiedPaths.hasKey_iff _ _).mp found
    rw [follows.mirrored.wellKeyed.keyed stored member] at same
    refine ⟨stored.2, List.mem_map_of_mem member, ?_⟩
    have covered := follows.covered folder (by rw [parts]; simp [later])
    obtain ⟨ancestor, listed, equal⟩ := above
    rw [← ModifiedPaths.covers_congr_entry equal, ModifiedPaths.covers_iff,
      ModifiedPaths.hasAncestor_iff] at covered
    rw [ModifiedPaths.hasAncestor_congr same, ModifiedPaths.hasAncestor_iff]
    rcases covered with own | ⟨outer, outside, key⟩
    · exact ⟨ancestor, listed, own⟩
    · exact ⟨outer, mem_ancestorFolders_trans outside listed, key⟩

theorem hasAncestor_compact (follows : store.Follows named) {entry : String}
    (listed : entry ∈ store.compact.2.paths.all) :
    store.compact.2.paths.hasAncestor entry = false := by
  rw [paths_compact follows.isOpen] at listed ⊢
  exact ModifiedPaths.hasAncestor_compacted follows.mirrored.wellKeyed listed

end Follows

end ModifiedPathsStore

end Enlistment
