import Enlistment.Proofs.ModifiedPaths.Mirror

/-!
The rows behind a set of modified paths, whatever rows it was loaded from. An entry in memory has its
row as long as it is there. A row that comes into the table is that of an entry that was added, or
of the attributes file when an empty table is read.
-/

namespace Enlistment

open Enlistment.Path

namespace ModifiedPaths

theorem find?_eq_some_iff {paths : ModifiedPaths} (wellKeyed : paths.WellKeyed)
    (key spelling : String) :
    paths.find? key = some spelling ↔ (key, spelling) ∈ paths.entries := by
  constructor
  · intro found
    obtain ⟨stored, first, rfl⟩ := Option.map_eq_some_iff.mp found
    have own : stored.1 = key := by simpa using List.find?_some first
    rw [← own]
    exact List.mem_of_find?_eq_some first
  · intro member
    have here : (paths.entries.find? fun stored => stored.1 == key).isSome = true := by
      rw [List.find?_isSome]
      exact ⟨_, member, by simp⟩
    obtain ⟨stored, first⟩ := Option.isSome_iff_exists.mp here
    have own : stored.1 = key := by simpa using List.find?_some first
    have same := List.inj_on_of_nodup_map wellKeyed.distinct
      (List.mem_of_find?_eq_some first) member own
    rw [find?, first, same]
    rfl

end ModifiedPaths

namespace ModifiedPathsStore

variable {store : ModifiedPathsStore}

@[simp]
theorem mem_seed_iff (row : String) (tables : Tables) :
    row ∈ (seed tables).1 ↔
      row ∈ tables.modifiedPaths ∨ tables.modifiedPaths = [] ∧ row = gitAttributes := by
  unfold seed
  split
  · rename_i empty
    simp [List.isEmpty_iff.mp empty]
  · rename_i nonempty
    simp [List.isEmpty_iff.not.mp nonempty]

/-- A set that was loaded is the one that its rows make up. -/
theorem eq_of_load {database after : Database} (read : load database = (.ok store, after)) :
    store = ⟨⟨(seed database.tables).2, database.pool.used⟩, .ofEntries (seed database.tables).1⟩ ∧
      store.database.isShutDown = false := by
  cases state : database.isShutDown with
  | true =>
      rw [load_of_shutDown state] at read
      exact absurd (congrArg Prod.fst read) (by simp)
  | false =>
      rw [load_of_open state (readable_of_load read)] at read
      obtain rfl := Except.ok.inj (congrArg Prod.fst read)
      exact ⟨rfl, (Pool.isShutDown_used _).trans state⟩

theorem load_of_openOn {sizes : PoolSizes} {tables : Tables}
    (opened : openOn sizes tables = .ok store) :
    ∃ database after, load database = (.ok store, after) ∧
      database.tables.modifiedPaths = tables.modifiedPaths := by
  unfold openOn at opened
  cases found : Database.openOn sizes tables with
  | error error =>
      rw [found] at opened
      exact absurd opened (by simp [bind, Except.bind])
  | ok database =>
      rw [found] at opened
      refine ⟨database, (load database).2, Prod.ext opened rfl, ?_⟩
      rw [Database.tables_of_openOn found]

theorem contains_of_load {database after : Database} (read : load database = (.ok store, after))
    (path : String) (isFolder : Bool) :
    store.contains path isFolder = true ↔
      ∃ row, (row ∈ database.tables.modifiedPaths ∨
          database.tables.modifiedPaths = [] ∧ row = gitAttributes) ∧
        caseKey row = caseKey (normalizeEntry path isFolder) := by
  rw [(eq_of_load read).1, contains, ModifiedPaths.hasKey_ofEntries]
  simp only [mem_seed_iff]

theorem backed_of_load {database after : Database} (read : load database = (.ok store, after)) :
    store.Backed := by
  rw [(eq_of_load read).1]
  exact backed_loaded _ _

theorem Backed.removeKey (backed : store.Backed) (key : String) : (store.removeKey key).2.Backed := by
  rcases removeKey_cases key store with
    ⟨_, absent⟩ | ⟨stored, member, own, _, ⟨_, removed⟩ | ⟨_, refused⟩⟩
  · rw [absent]
    exact backed
  · rw [removed]
    refine ⟨backed.wellKeyed.erase key, ?_⟩
    intro other kept
    obtain ⟨listed, different⟩ := List.mem_filter.mp kept
    simp only [Tables.deleteModifiedPaths, List.mem_filter, Bool.not_eq_true',
      List.contains_eq_mem, List.mem_singleton, decide_eq_false_iff_not]
    refine ⟨backed.stored other listed, ?_⟩
    intro same
    have equal : other.1 = key := by
      rw [← own, backed.wellKeyed.keyed other listed, backed.wellKeyed.keyed stored member, same]
    simp [equal] at different
  · rw [refused]
    exact backed

theorem Backed.perform (backed : store.Backed) (action : PathsAction) :
    (store.perform action).Backed := by
  cases action with
  | add path isFolder => exact backed.addEntry (normalizeEntry path isFolder)
  | remove path isFolder => exact backed.removeKey (caseKey (normalizeEntry path isFolder))
  | compact => exact backed.compact
  | shutDown => exact ⟨backed.wellKeyed, backed.stored⟩
  | reopen sizes =>
      simp only [ModifiedPathsStore.perform]
      split
      · rename_i again opened
        obtain ⟨_, _, read, _⟩ := load_of_openOn opened
        exact backed_of_load read
      · exact backed

theorem Backed.performAll (backed : store.Backed) (actions : List PathsAction) :
    (store.performAll actions).Backed :=
  List.foldlRecOn actions _ backed fun _ backed action _ => backed.perform action

/-- The action brings the entry into the set: it is that of a path to be added, nothing covers it,
and the store is open. -/
def Adds (entry : String) (store : ModifiedPathsStore) : PathsAction → Prop
  | .add path isFolder => entry = normalizeEntry path isFolder ∧
      store.paths.covers entry = false ∧ store.database.isShutDown = false
  | _ => False

theorem rows_of_reopen (sizes : PoolSizes) (store : ModifiedPathsStore) :
    (store.perform (.reopen sizes)).database.tables.modifiedPaths =
        (seed store.database.tables).1 ∨
      store.perform (.reopen sizes) = store := by
  simp only [perform]
  split
  · rename_i again opened
    obtain ⟨database, _, read, rows⟩ := load_of_openOn opened
    refine .inl ?_
    rw [(eq_of_load read).1]
    refine (modifiedPaths_seed _).trans ?_
    rw [seed, seed, rows]
    split <;> rfl
  · exact .inr rfl

/-- A row that an action leaves was there before, or the action added its entry, or the table was
empty and got the attributes file. -/
theorem mem_rows_perform {action : PathsAction} {row : String}
    (listed : row ∈ (store.perform action).database.tables.modifiedPaths) :
    row ∈ store.database.tables.modifiedPaths ∨ store.Adds row action ∨
      store.database.tables.modifiedPaths = [] ∧ row = gitAttributes := by
  cases action with
  | add path isFolder =>
      change row ∈ (store.addEntry (normalizeEntry path isFolder)).2.database.tables.modifiedPaths
        at listed
      rcases addEntry_cases (normalizeEntry path isFolder) store with
        ⟨_, same⟩ | ⟨uncovered, isOpen, added⟩ | ⟨_, _, same⟩
      · rw [same] at listed
        exact .inl listed
      · rw [added] at listed
        rcases (Rows.mem_put_id _ _ _).mp listed with rfl | old
        · exact .inr (.inl ⟨rfl, uncovered, isOpen⟩)
        · exact .inl old
      · rw [same] at listed
        exact .inl listed
  | remove path isFolder =>
      change row ∈ (store.removeKey
        (caseKey (normalizeEntry path isFolder))).2.database.tables.modifiedPaths at listed
      rcases removeKey_cases (caseKey (normalizeEntry path isFolder)) store with
        ⟨_, same⟩ | ⟨_, _, _, _, ⟨_, removed⟩ | ⟨_, same⟩⟩
      · rw [same] at listed
        exact .inl listed
      · rw [removed] at listed
        exact .inl (List.mem_filter.mp listed).1
      · rw [same] at listed
        exact .inl listed
  | compact =>
      change row ∈ store.compact.2.database.tables.modifiedPaths at listed
      rcases compact_cases store with same | ⟨_, compacted⟩
      · rw [same] at listed
        exact .inl listed
      · rw [compacted] at listed
        exact .inl (List.mem_filter.mp listed).1
  | shutDown => exact .inl listed
  | reopen sizes =>
      rcases rows_of_reopen sizes store with rows | same
      · rw [rows, mem_seed_iff] at listed
        exact listed.imp_right .inr
      · rw [same] at listed
        exact .inl listed

end ModifiedPathsStore

end Enlistment
