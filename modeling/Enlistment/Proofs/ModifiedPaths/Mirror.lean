import Enlistment.Proofs.ModifiedPaths.Coverage
import Mathlib.Data.List.Nodup

/-!
The set in memory and its table. Every change is made in the table first and in memory after it, or
in neither, so the entries in memory are the rows, each under its case key; and a set that is read
from the rows again is the same, but for an empty table, which gets the attributes file.
-/

namespace Enlistment

open Enlistment.Path

namespace ModifiedPaths

theorem all_put_of_new {entry : String} {paths : ModifiedPaths}
    (new : paths.hasKey (caseKey entry) ≠ true) : (paths.put entry).all = paths.all ++ [entry] := by
  have kept : (paths.erase (caseKey entry)).entries = paths.entries := by
    refine List.filter_eq_self.mpr ?_
    intro stored member
    rw [bne_iff_ne]
    intro same
    exact new ((hasKey_iff _ _).mpr ⟨stored, member, same⟩)
  simp only [put, all, kept, List.map_append, List.map_cons, List.map_nil]

theorem entries_foldl_erase (dropped : List (String × String)) (paths : ModifiedPaths) :
    (dropped.foldl (fun kept stored => kept.erase stored.1) paths).entries =
      paths.entries.filter fun stored => dropped.all fun other => stored.1 != other.1 := by
  induction dropped generalizing paths with
  | nil => exact (List.filter_eq_self.mpr fun _ _ => rfl).symm
  | cons first rest ih =>
      rw [List.foldl_cons, ih, erase, List.filter_filter]
      apply List.filter_congr
      intro stored _
      rw [List.all_cons, Bool.and_comm]

/-- To drop entries by their keys is to drop them by their spellings. -/
theorem all_foldl_erase {paths : ModifiedPaths} (wellKeyed : paths.WellKeyed)
    {dropped : List (String × String)} (inside : dropped ⊆ paths.entries) :
    (dropped.foldl (fun kept stored => kept.erase stored.1) paths).all =
      paths.all.filter (!(dropped.map (·.2)).contains ·) := by
  rw [all, all, entries_foldl_erase, List.filter_map]
  congr 1
  apply List.filter_congr
  intro stored member
  rw [Bool.eq_iff_iff, List.all_eq_true]
  simp only [bne_iff_ne, Function.comp_apply, List.contains_eq_mem, Bool.not_eq_true',
    decide_eq_false_iff_not, List.mem_map, not_exists, not_and]
  constructor
  · intro different other listed same
    apply different other listed
    rw [wellKeyed.keyed stored member, wellKeyed.keyed other (inside listed), same]
  · intro different other listed same
    apply different other listed
    have equal := List.inj_on_of_nodup_map wellKeyed.distinct (inside listed) member same.symm
    rw [equal]

theorem entries_eq_map_all {paths : ModifiedPaths} (wellKeyed : paths.WellKeyed) :
    paths.entries = paths.all.map fun entry => (caseKey entry, entry) := by
  rw [all, List.map_map]
  symm
  refine (List.map_congr_left ?_).trans (List.map_id _)
  intro stored member
  exact Prod.ext (wellKeyed.keyed stored member).symm rfl

theorem nodup_map_caseKey_all {paths : ModifiedPaths} (wellKeyed : paths.WellKeyed) :
    (paths.all.map caseKey).Nodup := by
  have distinct := wellKeyed.distinct
  rw [entries_eq_map_all wellKeyed, List.map_map] at distinct
  exact distinct

theorem all_foldl_put {entries : List String} {paths : ModifiedPaths}
    (distinct : (entries.map caseKey).Nodup)
    (new : ∀ entry ∈ entries, paths.hasKey (caseKey entry) ≠ true) :
    (entries.foldl (fun paths entry => paths.put entry) paths).all = paths.all ++ entries := by
  induction entries generalizing paths with
  | nil => simp
  | cons first rest ih =>
      rw [List.map_cons, List.nodup_cons] at distinct
      have later : ∀ entry ∈ rest, (paths.put first).hasKey (caseKey entry) ≠ true := by
        intro entry listed found
        rcases (hasKey_put _ _ _).mp found with same | old
        · exact distinct.1 (List.mem_map.mpr ⟨entry, listed, same⟩)
        · exact new entry (List.mem_cons_of_mem _ listed) old
      rw [List.foldl_cons, ih distinct.2 later, all_put_of_new (new first List.mem_cons_self),
        List.append_assoc, List.singleton_append]

theorem all_ofEntries {entries : List String} (distinct : (entries.map caseKey).Nodup) :
    (ofEntries entries).all = entries := by
  refine (all_foldl_put distinct ?_).trans (List.nil_append entries)
  intro entry _
  simp

end ModifiedPaths

inductive PathsAction where
  | add (path : String) (isFolder : Bool)
  | remove (path : String) (isFolder : Bool)
  | compact
  | shutDown
  | reopen (sizes : PoolSizes)

namespace ModifiedPathsStore

def openOn (sizes : PoolSizes) (tables : Tables) : Except DatabaseError ModifiedPathsStore := do
  (load (← Database.openOn sizes tables)).1

def perform (store : ModifiedPathsStore) : PathsAction → ModifiedPathsStore
  | .add path isFolder => (store.add path isFolder).2
  | .remove path isFolder => (store.remove path isFolder).2
  | .compact => store.compact.2
  | .shutDown => { store with database := store.database.shutDown }
  | .reopen sizes =>
      match openOn sizes store.database.tables with
      | .ok again => again
      | .error _ => store

def performAll (actions : List PathsAction) (store : ModifiedPathsStore) : ModifiedPathsStore :=
  actions.foldl perform store

structure Mirrored (store : ModifiedPathsStore) : Prop where
  wellKeyed : store.paths.WellKeyed
  rows : store.paths.all.Perm store.database.tables.modifiedPaths
  known : store.database.tables.version ≤ Enlistment.schemaVersion
  readable : store.database.tables.unreadablePaths = []

@[simp]
theorem version_seed (tables : Tables) : (seed tables).2.version = tables.version := by
  unfold seed
  split <;> rfl

theorem openOn_of_known (sizes : PoolSizes) {tables : Tables}
    (known : tables.version ≤ Enlistment.schemaVersion) (readable : tables.unreadablePaths = []) :
    ∃ again, openOn sizes tables = .ok again ∧
      again.paths = .ofEntries (seed tables).1 ∧
      again.database.tables.modifiedPaths = (seed tables).1 ∧
      again.database.tables.version = Enlistment.schemaVersion ∧
      again.database.tables.unreadablePaths = [] := by
  have loaded :=
    load_of_open (Database.isOpen_of_openOn (Database.openOn_of_known sizes known)) readable
  have same : (seed { tables with version := Enlistment.schemaVersion }).1 = (seed tables).1 := by
    unfold seed
    split <;> rfl
  refine ⟨⟨⟨(seed { tables with version := Enlistment.schemaVersion }).2,
    (Pool.start sizes).used⟩, .ofEntries (seed tables).1⟩, ?_, rfl, ?_, version_seed _,
    (unreadablePaths_seed _).trans readable⟩
  · rw [openOn, Database.openOn_of_known sizes known]
    exact (congrArg Prod.fst loaded).trans (by rw [same])
  · exact (modifiedPaths_seed _).trans same

theorem nodup_map_caseKey_seed {tables : Tables} (distinct : (tables.modifiedPaths.map caseKey).Nodup) :
    ((seed tables).1.map caseKey).Nodup := by
  unfold seed
  split
  · exact List.nodup_singleton _
  · exact distinct

namespace Mirrored

variable {store : ModifiedPathsStore}

theorem nodup_map_caseKey_rows (mirrored : store.Mirrored) :
    (store.database.tables.modifiedPaths.map caseKey).Nodup :=
  (mirrored.rows.map caseKey).nodup_iff.mp (ModifiedPaths.nodup_map_caseKey_all mirrored.wellKeyed)

theorem of_openOn {sizes : PoolSizes} {tables : Tables} {again : ModifiedPathsStore}
    (known : tables.version ≤ Enlistment.schemaVersion) (readable : tables.unreadablePaths = [])
    (distinct : (tables.modifiedPaths.map caseKey).Nodup)
    (opened : openOn sizes tables = .ok again) : again.Mirrored := by
  obtain ⟨found, same, read, rows, version, texts⟩ := openOn_of_known sizes known readable
  obtain rfl := Except.ok.inj (opened.symm.trans same)
  refine ⟨?_, ?_, Int.le_of_eq version, texts⟩
  · rw [read]
    exact ModifiedPaths.wellKeyed_ofEntries _
  · rw [read, rows, ModifiedPaths.all_ofEntries (nodup_map_caseKey_seed distinct)]

/-- Entries that are dropped from both, in the table by their spelling and in memory by their key. -/
theorem drop (mirrored : store.Mirrored) {dropped : List (String × String)}
    (inside : dropped ⊆ store.paths.entries) (pool : Pool) :
    Mirrored ⟨⟨store.database.tables.deleteModifiedPaths (dropped.map (·.2)), pool⟩,
      dropped.foldl (fun kept stored => kept.erase stored.1) store.paths⟩ := by
  refine ⟨?_, ?_, mirrored.known, mirrored.readable⟩
  · exact List.foldlRecOn dropped _ mirrored.wellKeyed fun _ kept stored _ => kept.erase stored.1
  · rw [ModifiedPaths.all_foldl_erase mirrored.wellKeyed inside]
    exact mirrored.rows.filter _

theorem addEntry (mirrored : store.Mirrored) (entry : String) :
    (store.addEntry entry).2.Mirrored := by
  rcases addEntry_cases entry store with ⟨_, same⟩ | ⟨uncovered, _, added⟩ | ⟨_, _, same⟩
  · rw [same]
    exact mirrored
  · rw [added]
    have new : store.paths.hasKey (caseKey entry) ≠ true := by
      intro found
      have covered := (ModifiedPaths.covers_iff entry store.paths).mpr (.inl found)
      rw [uncovered] at covered
      contradiction
    have absent : entry ∉ store.database.tables.modifiedPaths := by
      intro listed
      obtain ⟨stored, member, rfl⟩ := List.mem_map.mp (mirrored.rows.symm.subset listed)
      exact new ((ModifiedPaths.hasKey_iff _ _).mpr
        ⟨stored, member, mirrored.wellKeyed.keyed stored member⟩)
    refine ⟨mirrored.wellKeyed.put entry, ?_, mirrored.known, mirrored.readable⟩
    rw [ModifiedPaths.all_put_of_new new]
    have appended : (store.paths.all ++ [entry]).Perm (entry :: store.paths.all) :=
      List.perm_append_singleton entry store.paths.all
    exact appended.trans ((mirrored.rows.cons entry).trans (Rows.perm_put_id absent).symm)
  · rw [same]
    exact mirrored

theorem removeKey (mirrored : store.Mirrored) (key : String) : (store.removeKey key).2.Mirrored := by
  rcases removeKey_cases key store with
    ⟨_, absent⟩ | ⟨stored, member, own, _, ⟨_, removed⟩ | ⟨_, refused⟩⟩
  · rw [absent]
    exact mirrored
  · rw [removed, ← own]
    have inside : [stored] ⊆ store.paths.entries := by simpa using member
    exact mirrored.drop inside store.database.pool.used
  · rw [refused]
    exact mirrored

theorem compact (mirrored : store.Mirrored) : store.compact.2.Mirrored := by
  rcases compact_cases store with same | ⟨_, compacted⟩
  · rw [same]
    exact mirrored
  · rw [compacted]
    exact mirrored.drop List.filter_sublist.subset store.database.pool.used

theorem perform (mirrored : store.Mirrored) (action : PathsAction) :
    (store.perform action).Mirrored := by
  cases action with
  | add path isFolder => exact mirrored.addEntry (normalizeEntry path isFolder)
  | remove path isFolder => exact mirrored.removeKey (caseKey (normalizeEntry path isFolder))
  | compact => exact mirrored.compact
  | shutDown => exact ⟨mirrored.wellKeyed, mirrored.rows, mirrored.known, mirrored.readable⟩
  | reopen sizes =>
      obtain ⟨again, opened, _⟩ := openOn_of_known sizes mirrored.known mirrored.readable
      simp only [ModifiedPathsStore.perform, opened]
      exact of_openOn mirrored.known mirrored.readable mirrored.nodup_map_caseKey_rows opened

theorem performAll (mirrored : store.Mirrored) (actions : List PathsAction) :
    (store.performAll actions).Mirrored :=
  List.foldlRecOn actions _ mirrored fun _ mirrored action _ => mirrored.perform action

/-- A set that is read again is the same, unless there is nothing to read. -/
theorem reopened (mirrored : store.Mirrored) (sizes : PoolSizes) :
    ∃ again, openOn sizes store.database.tables = .ok again ∧
      (store.database.tables.modifiedPaths ≠ [] →
        again.paths.entries.Perm store.paths.entries) ∧
      (store.database.tables.modifiedPaths = [] →
        again.paths.entries = [(gitAttributes, gitAttributes)]) := by
  obtain ⟨again, opened, read, _⟩ := openOn_of_known sizes mirrored.known mirrored.readable
  refine ⟨again, opened, ?_, ?_⟩
  · intro nonempty
    have seeded : (seed store.database.tables).1 = store.database.tables.modifiedPaths := by
      rw [seed, if_neg (by simpa using nonempty)]
    rw [ModifiedPaths.entries_eq_map_all (read ▸ ModifiedPaths.wellKeyed_ofEntries _),
      ModifiedPaths.entries_eq_map_all mirrored.wellKeyed, read, seeded,
      ModifiedPaths.all_ofEntries mirrored.nodup_map_caseKey_rows]
    exact mirrored.rows.symm.map _
  · intro empty
    have seeded : (seed store.database.tables).1 = [gitAttributes] := by
      rw [seed, if_pos (by simp [empty])]
    rw [read, seeded]
    decide +kernel

end Mirrored

/-- Whatever is done with a set that started on an empty store, succeeding or not, what is in memory
is what is in the table, every entry is under its case key and no two rows share one, and the set
that would be read from the table is the same, but for an empty table. -/
theorem memory_mirrors_rows (sizes : PoolSizes) :
    ∃ fresh, openOn sizes .empty = .ok fresh ∧ ∀ actions,
      (performAll actions fresh).paths.all.Perm
        (performAll actions fresh).database.tables.modifiedPaths ∧
      (∀ stored ∈ (performAll actions fresh).paths.entries, stored.1 = caseKey stored.2) ∧
      ((performAll actions fresh).database.tables.modifiedPaths.map caseKey).Nodup ∧
      ∀ sizes, ∃ again, openOn sizes (performAll actions fresh).database.tables = .ok again ∧
        ((performAll actions fresh).database.tables.modifiedPaths ≠ [] →
          again.paths.entries.Perm (performAll actions fresh).paths.entries) ∧
        ((performAll actions fresh).database.tables.modifiedPaths = [] →
          again.paths.entries = [(gitAttributes, gitAttributes)]) := by
  have known : Tables.empty.version ≤ Enlistment.schemaVersion := by decide
  obtain ⟨fresh, opened, _⟩ := openOn_of_known sizes known rfl
  have started : fresh.Mirrored := .of_openOn known rfl List.nodup_nil opened
  refine ⟨fresh, opened, fun actions => ?_⟩
  have mirrored := started.performAll actions
  exact ⟨mirrored.rows, mirrored.wellKeyed.keyed, mirrored.nodup_map_caseKey_rows,
    mirrored.reopened⟩

end ModifiedPathsStore

end Enlistment
