import Enlistment.Proofs.ModifiedPaths.Keys
import Enlistment.Proofs.Store.Statements

/-!
What a set of modified paths covers is never lost. Adding only adds keys, and a set that is read
back from its rows has at least the keys it had. Compaction drops an entry only for a folder above
it; that folder may be dropped as well, but the folder that lies the least deep is kept.
-/

namespace Enlistment

open Enlistment.Path

namespace ModifiedPaths

def compacted (paths : ModifiedPaths) : ModifiedPaths :=
  paths.redundant.foldl (fun kept stored => kept.erase stored.1) paths

theorem hasKey_foldl_erase (key : String) (dropped : List (String × String))
    (paths : ModifiedPaths) :
    (dropped.foldl (fun kept stored => kept.erase stored.1) paths).hasKey key = true ↔
      paths.hasKey key = true ∧ ∀ stored ∈ dropped, key ≠ stored.1 := by
  induction dropped generalizing paths with
  | nil => simp
  | cons first rest ih =>
      rw [List.foldl_cons, ih, hasKey_erase, List.forall_mem_cons, and_assoc]

theorem entries_compacted_subset (paths : ModifiedPaths) :
    paths.compacted.entries ⊆ paths.entries := by
  refine List.foldlRecOn paths.redundant _ (motive := fun kept : ModifiedPaths =>
    kept.entries ⊆ paths.entries) (List.Subset.refl _) ?_
  intro kept inside _ _ stored member
  exact inside (List.mem_filter.mp member).1

theorem WellKeyed.compacted {paths : ModifiedPaths} (wellKeyed : paths.WellKeyed) :
    paths.compacted.WellKeyed := by
  exact List.foldlRecOn paths.redundant _ wellKeyed fun _ kept stored _ => kept.erase stored.1

theorem hasKey_compacted {paths : ModifiedPaths} (wellKeyed : paths.WellKeyed)
    {stored : String × String} (member : stored ∈ paths.entries)
    (needed : paths.hasAncestor stored.2 ≠ true) : paths.compacted.hasKey stored.1 = true := by
  apply (hasKey_foldl_erase _ _ _).mpr
  refine ⟨(hasKey_iff _ _).mpr ⟨stored, member, rfl⟩, ?_⟩
  intro other dropped same
  obtain ⟨listed, redundant⟩ := List.mem_filter.mp dropped
  apply needed
  rw [wellKeyed.keyed stored member, wellKeyed.keyed other listed] at same
  rw [hasAncestor_congr same]
  exact redundant

theorem compacted_covers_stored {paths : ModifiedPaths} (wellKeyed : paths.WellKeyed)
    {stored : String × String} (member : stored ∈ paths.entries) :
    paths.compacted.covers stored.2 = true := by
  by_cases redundant : paths.hasAncestor stored.2 = true
  · -- An entry above has a key of the set, so it stands for a stored entry that lies less deep.
    obtain ⟨folder, above, found⟩ := (hasAncestor_iff _ _).mp redundant
    obtain ⟨upper, listed, same⟩ := (hasKey_iff _ _).mp found
    rw [wellKeyed.keyed upper listed] at same
    have shallower : depth upper.2 < depth stored.2 := by
      rw [← depth_caseKey upper.2, same, depth_caseKey]
      exact depth_lt_of_mem_ancestorFolders above
    have covered := compacted_covers_stored wellKeyed listed
    rw [covers_congr_entry same] at covered
    exact covers_below above covered
  · have kept := hasKey_compacted wellKeyed member redundant
    rw [wellKeyed.keyed stored member] at kept
    exact (covers_iff _ _).mpr (.inl kept)
termination_by depth stored.2

theorem compacted_covers_of_hasKey {paths : ModifiedPaths} (wellKeyed : paths.WellKeyed)
    {entry : String} (found : paths.hasKey (caseKey entry) = true) :
    paths.compacted.covers entry = true := by
  obtain ⟨stored, member, same⟩ := (hasKey_iff _ _).mp found
  rw [wellKeyed.keyed stored member] at same
  rw [← covers_congr_entry same]
  exact compacted_covers_stored wellKeyed member

/-- Compaction drops no more than what is covered without it. -/
theorem compacted_covers {paths : ModifiedPaths} (wellKeyed : paths.WellKeyed) {entry : String}
    (covered : paths.covers entry = true) : paths.compacted.covers entry = true := by
  rw [covers_iff, hasAncestor_iff] at covered
  rcases covered with own | ⟨folder, above, found⟩
  · exact compacted_covers_of_hasKey wellKeyed own
  · exact covers_below above (compacted_covers_of_hasKey wellKeyed found)

end ModifiedPaths

namespace ModifiedPathsStore

structure Backed (store : ModifiedPathsStore) : Prop where
  wellKeyed : store.paths.WellKeyed
  stored : ∀ stored ∈ store.paths.entries, stored.2 ∈ store.database.tables.modifiedPaths

def Keeps (before after : ModifiedPathsStore) : Prop :=
  ∀ entry, before.paths.covers entry = true → after.paths.covers entry = true

theorem addEntry_cases (entry : String) (store : ModifiedPathsStore) :
    (store.paths.covers entry = true ∧ store.addEntry entry = (.success, store)) ∨
    (store.paths.covers entry = false ∧ store.database.isShutDown = false ∧
      store.addEntry entry =
        (.success, ⟨⟨store.database.tables.insertModifiedPath entry, store.database.pool.used⟩,
          store.paths.put entry⟩)) ∨
    (store.paths.covers entry = false ∧ store.database.isShutDown = true ∧
      store.addEntry entry = (.failure .shutDown, store)) := by
  cases covered : store.paths.covers entry with
  | true => exact .inl ⟨rfl, by simp [addEntry, covered]⟩
  | false =>
      rcases Database.update_cases (Tables.insertModifiedPath entry) store.database with
        ⟨isOpen, updated⟩ | ⟨closed, refused⟩
      · exact .inr (.inl ⟨rfl, isOpen, by simp [addEntry, covered, updated]⟩)
      · exact .inr (.inr ⟨rfl, closed, by simp [addEntry, covered, refused]⟩)

theorem Backed.addEntry {store : ModifiedPathsStore} (backed : store.Backed) (entry : String) :
    (store.addEntry entry).2.Backed := by
  rcases addEntry_cases entry store with ⟨_, same⟩ | ⟨_, _, added⟩ | ⟨_, _, same⟩
  · rw [same]
    exact backed
  · rw [added]
    refine ⟨backed.wellKeyed.put entry, ?_⟩
    intro stored member
    apply (Rows.mem_put_id _ _ _).mpr
    rcases ModifiedPaths.mem_put member with old | new
    · exact .inr (backed.stored stored old)
    · exact .inl (congrArg Prod.snd new)
  · rw [same]
    exact backed

theorem keeps_addEntry (entry : String) (store : ModifiedPathsStore) :
    store.Keeps (store.addEntry entry).2 := by
  intro other covered
  rcases addEntry_cases entry store with ⟨_, same⟩ | ⟨_, _, added⟩ | ⟨_, _, same⟩
  · rw [same]
    exact covered
  · rw [added]
    exact ModifiedPaths.covers_mono (fun _ => ModifiedPaths.hasKey_put_of_hasKey entry) covered
  · rw [same]
    exact covered

theorem covers_of_addEntry {store : ModifiedPathsStore} {entry : String}
    (accepted : (store.addEntry entry).1.accepted = true) :
    (store.addEntry entry).2.paths.covers entry = true := by
  rcases addEntry_cases entry store with ⟨covered, same⟩ | ⟨_, _, added⟩ | ⟨_, _, refused⟩
  · rw [same]
    exact covered
  · rw [added]
    simp
  · rw [refused] at accepted
    simp [UpdateOutcome.failure] at accepted

theorem removeKey_cases (key : String) (store : ModifiedPathsStore) :
    (store.paths.find? key = none ∧ store.removeKey key = (.success, store)) ∨
    (∃ stored ∈ store.paths.entries, stored.1 = key ∧ store.paths.find? key = some stored.2 ∧
      ((store.database.isShutDown = false ∧
          store.removeKey key =
            (.success, ⟨⟨store.database.tables.deleteModifiedPaths [stored.2],
              store.database.pool.used⟩, store.paths.erase key⟩)) ∨
        store.database.isShutDown = true ∧
          store.removeKey key = (.failure .shutDown, store))) := by
  cases found : store.paths.find? key with
  | none => exact .inl ⟨rfl, by simp [removeKey, found]⟩
  | some spelling =>
      obtain ⟨stored, first, rfl⟩ := Option.map_eq_some_iff.mp found
      have own : stored.1 = key := by simpa using List.find?_some first
      refine .inr ⟨stored, List.mem_of_find?_eq_some first, own, rfl, ?_⟩
      rcases Database.update_cases (Tables.deleteModifiedPaths [stored.2]) store.database with
        ⟨isOpen, updated⟩ | ⟨closed, refused⟩
      · exact .inl ⟨isOpen, by simp [removeKey, found, updated]⟩
      · exact .inr ⟨closed, by simp [removeKey, found, refused]⟩

theorem compact_cases (store : ModifiedPathsStore) :
    store.compact.2 = store ∨
    (store.database.isShutDown = false ∧
      store.compact.2 =
        ⟨⟨store.database.tables.deleteModifiedPaths (store.paths.redundant.map (·.2)),
          store.database.pool.used⟩, store.paths.compacted⟩) := by
  unfold compact
  simp only
  split
  · exact .inl rfl
  · rcases Database.update_cases
      (Tables.deleteModifiedPaths (store.paths.redundant.map (·.2))) store.database with
      ⟨isOpen, updated⟩ | ⟨_, refused⟩
    · rw [updated]
      exact .inr ⟨isOpen, rfl⟩
    · rw [refused]
      exact .inl rfl

theorem Backed.compact {store : ModifiedPathsStore} (backed : store.Backed) :
    store.compact.2.Backed := by
  rcases compact_cases store with same | ⟨_, compacted⟩
  · rw [same]
    exact backed
  · rw [compacted]
    refine ⟨backed.wellKeyed.compacted, ?_⟩
    intro stored member
    have listed := store.paths.entries_compacted_subset member
    have kept := (ModifiedPaths.hasKey_foldl_erase stored.1 store.paths.redundant store.paths).mp
      ((ModifiedPaths.hasKey_iff _ _).mpr ⟨stored, member, rfl⟩)
    simp only [Tables.deleteModifiedPaths, List.mem_filter, Bool.not_eq_true',
      List.contains_eq_mem, decide_eq_false_iff_not]
    refine ⟨backed.stored stored listed, ?_⟩
    intro deleted
    obtain ⟨other, dropped, same⟩ := List.mem_map.mp deleted
    apply kept.2 other dropped
    rw [backed.wellKeyed.keyed stored listed,
      backed.wellKeyed.keyed other (List.mem_filter.mp dropped).1, same]

theorem keeps_compact {store : ModifiedPathsStore} (backed : store.Backed) :
    store.Keeps store.compact.2 := by
  intro entry covered
  rcases compact_cases store with same | ⟨_, compacted⟩
  · rw [same]
    exact covered
  · rw [compacted]
    exact ModifiedPaths.compacted_covers backed.wellKeyed covered

theorem load_of_open {database : Database} (isOpen : database.isShutDown = false)
    (readable : database.tables.unreadablePaths = []) :
    load database =
      (.ok ⟨⟨(seed database.tables).2, database.pool.used⟩, .ofEntries (seed database.tables).1⟩,
        ⟨(seed database.tables).2, database.pool.used⟩) := by
  rw [load, Database.run_of_open isOpen, checkTexts, readable]
  rfl

theorem load_of_unreadable {database : Database} (isOpen : database.isShutDown = false)
    (unreadable : database.tables.unreadablePaths ≠ []) :
    load database =
      (.error (.statement (.undecodable "path")), ⟨database.tables, database.pool.used⟩) := by
  obtain ⟨first, rest, listed⟩ := List.exists_cons_of_ne_nil unreadable
  rw [load, Database.run_of_open isOpen, checkTexts, listed]
  rfl

theorem load_of_shutDown {database : Database} (closed : database.isShutDown = true) :
    load database = (.error .shutDown, database) := by
  rw [load, Database.run_of_shutDown closed]

theorem readable_of_load {database after : Database} {store : ModifiedPathsStore}
    (loaded : load database = (.ok store, after)) : database.tables.unreadablePaths = [] := by
  cases state : database.isShutDown with
  | true =>
      rw [load_of_shutDown state] at loaded
      exact absurd (congrArg Prod.fst loaded) nofun
  | false =>
      by_cases readable : database.tables.unreadablePaths = []
      · exact readable
      · rw [load_of_unreadable state readable] at loaded
        exact absurd (congrArg Prod.fst loaded) nofun

@[simp]
theorem unreadablePaths_seed (tables : Tables) :
    (seed tables).2.unreadablePaths = tables.unreadablePaths := by
  unfold seed
  split <;> rfl

@[simp]
theorem modifiedPaths_seed (tables : Tables) : (seed tables).2.modifiedPaths = (seed tables).1 := by
  unfold seed
  split
  · rename_i empty
    simp [Tables.insertModifiedPath, List.isEmpty_iff.mp empty, Rows.put]
  · rfl

theorem mem_seed {entry : String} {tables : Tables} (listed : entry ∈ tables.modifiedPaths) :
    entry ∈ (seed tables).1 := by
  have nonempty : tables.modifiedPaths.isEmpty = false :=
    List.isEmpty_eq_false_iff_exists_mem.mpr ⟨entry, listed⟩
  simp [seed, nonempty, listed]

theorem backed_loaded (tables : Tables) (pool : Pool) :
    Backed ⟨⟨(seed tables).2, pool⟩, .ofEntries (seed tables).1⟩ := by
  refine ⟨ModifiedPaths.wellKeyed_ofEntries _, ?_⟩
  intro stored member
  simpa using ModifiedPaths.mem_of_mem_ofEntries member

theorem covers_loaded {entry : String} {entries : List String} (listed : entry ∈ entries) :
    (ModifiedPaths.ofEntries entries).covers entry = true := by
  exact (ModifiedPaths.covers_iff _ _).mpr
    (.inl ((ModifiedPaths.hasKey_ofEntries _ _).mpr ⟨entry, listed, rfl⟩))

/-- A set that is read back from its rows covers what it covered. -/
theorem covers_reloaded {store : ModifiedPathsStore} (backed : store.Backed) {entry : String}
    (covered : store.paths.covers entry = true) :
    (ModifiedPaths.ofEntries (seed store.database.tables).1).covers entry = true := by
  refine ModifiedPaths.covers_mono ?_ covered
  intro key found
  obtain ⟨stored, member, same⟩ := (ModifiedPaths.hasKey_iff _ _).mp found
  rw [backed.wellKeyed.keyed stored member] at same
  exact (ModifiedPaths.hasKey_ofEntries _ _).mpr
    ⟨stored.2, mem_seed (backed.stored stored member), same⟩

end ModifiedPathsStore

end Enlistment
