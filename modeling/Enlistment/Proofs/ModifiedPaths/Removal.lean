import Enlistment.Proofs.ModifiedPaths.Backing
import Mathlib.Data.List.Induction

/-!
Whether an entry that was removed stays away when the set is read again. The row of the entry is
deleted in the spelling that is in memory, so no row with its key is left if there was only one, and
none comes back unless it is added, or is that of the attributes file in a table that became empty.
A table can hold a key in two spellings, of which one is in memory; then the other one comes back.
-/

namespace Enlistment

open Enlistment.Path

def SharedKey (key : String) (rows : List String) : Prop :=
  ∃ row ∈ rows, ∃ other ∈ rows, row ≠ other ∧ caseKey row = key ∧ caseKey other = key

instance (key : String) (rows : List String) : Decidable (SharedKey key rows) :=
  inferInstanceAs
    (Decidable (∃ row ∈ rows, ∃ other ∈ rows, row ≠ other ∧ caseKey row = key ∧ caseKey other = key))

theorem not_sharedKey_iff (key : String) (rows : List String) :
    ¬ SharedKey key rows ↔ ∀ row ∈ rows, ∀ other ∈ rows,
      caseKey row = key → caseKey other = key → row = other := by
  constructor
  · intro single row listed other otherListed own otherOwn
    by_contra different
    exact single ⟨row, listed, other, otherListed, different, own, otherOwn⟩
  · rintro single ⟨row, listed, other, otherListed, different, own, otherOwn⟩
    exact different (single row listed other otherListed own otherOwn)

namespace ModifiedPaths

theorem mem_erase_iff (stored : String × String) (key : String) (paths : ModifiedPaths) :
    stored ∈ (paths.erase key).entries ↔ stored ∈ paths.entries ∧ stored.1 ≠ key := by
  simp [erase]

theorem mem_compacted {paths : ModifiedPaths} (wellKeyed : paths.WellKeyed)
    {stored : String × String} (member : stored ∈ paths.entries)
    (kept : stored.2 ∉ paths.redundant.map (·.2)) : stored ∈ paths.compacted.entries := by
  rw [compacted, entries_foldl_erase, List.mem_filter, List.all_eq_true]
  refine ⟨member, fun other dropped => ?_⟩
  rw [bne_iff_ne]
  intro same
  have inside := (List.mem_filter.mp dropped).1
  have equal := List.inj_on_of_nodup_map wellKeyed.distinct inside member same.symm
  exact kept (equal ▸ List.mem_map_of_mem dropped)

end ModifiedPaths

namespace ModifiedPathsStore

variable {store : ModifiedPathsStore} {key : String}

def Sole (key : String) (store : ModifiedPathsStore) : Prop :=
  ∀ row ∈ store.database.tables.modifiedPaths, caseKey row = key →
    (key, row) ∈ store.paths.entries

theorem Sole.not_sharedKey (sole : store.Sole key) (wellKeyed : store.paths.WellKeyed) :
    ¬ SharedKey key store.database.tables.modifiedPaths := by
  rw [not_sharedKey_iff]
  intro row listed other otherListed own otherOwn
  have same := List.inj_on_of_nodup_map wellKeyed.distinct (sole row listed own)
    (sole other otherListed otherOwn) rfl
  exact congrArg Prod.snd same

theorem sole_of_load {database after : Database} (read : load database = (.ok store, after))
    (single : ¬ SharedKey key database.tables.modifiedPaths) : store.Sole key := by
  have rows : store.database.tables.modifiedPaths = (seed database.tables).1 := by
    simp [(eq_of_load read).1]
  have paths : store.paths = .ofEntries (seed database.tables).1 := by
    rw [(eq_of_load read).1]
  have seeded : ∀ row ∈ (seed database.tables).1, ∀ other ∈ (seed database.tables).1,
      caseKey row = key → caseKey other = key → row = other := by
    intro row listed other otherListed own otherOwn
    rcases (mem_seed_iff _ _).mp listed with old | ⟨empty, rfl⟩
    · rcases (mem_seed_iff _ _).mp otherListed with otherOld | ⟨empty, _⟩
      · exact (not_sharedKey_iff _ _).mp single row old other otherOld own otherOwn
      · rw [empty] at old
        exact absurd old (by simp)
    · rcases (mem_seed_iff _ _).mp otherListed with otherOld | ⟨_, rfl⟩
      · rw [empty] at otherOld
        exact absurd otherOld (by simp)
      · rfl
  intro row listed own
  rw [rows] at listed
  have found : store.paths.hasKey key = true := by
    rw [paths, ModifiedPaths.hasKey_ofEntries]
    exact ⟨row, listed, own⟩
  obtain ⟨stored, member, same⟩ := (ModifiedPaths.hasKey_iff _ _).mp found
  have keyed := (backed_of_load read).wellKeyed.keyed stored member
  have spelling : stored.2 ∈ (seed database.tables).1 := by
    rw [paths] at member
    exact ModifiedPaths.mem_of_mem_ofEntries member
  have equal : stored.2 = row :=
    seeded stored.2 spelling row listed (keyed.symm.trans same) own
  rw [← same, ← equal]
  exact member

theorem Sole.addEntry (sole : store.Sole key) (entry : String) :
    (store.addEntry entry).2.Sole key := by
  rcases addEntry_cases entry store with ⟨_, same⟩ | ⟨uncovered, _, added⟩ | ⟨_, _, same⟩
  · rw [same]
    exact sole
  · rw [added]
    intro row listed own
    rcases (Rows.mem_put_id _ _ _).mp listed with rfl | old
    · rw [← own]
      exact List.mem_append_right _ List.mem_cons_self
    · have member := sole row old own
      refine List.mem_append_left _ ((ModifiedPaths.mem_erase_iff _ _ _).mpr ⟨member, ?_⟩)
      rintro rfl
      have found := (ModifiedPaths.hasKey_iff _ _).mpr ⟨_, member, rfl⟩
      have covered := (ModifiedPaths.covers_iff _ _).mpr (.inl found)
      rw [uncovered] at covered
      exact absurd covered (by simp)
  · rw [same]
    exact sole

theorem Sole.removeKey (sole : store.Sole key) (backed : store.Backed) (removed : String) :
    (store.removeKey removed).2.Sole key := by
  rcases removeKey_cases removed store with
    ⟨_, same⟩ | ⟨stored, inside, named, _, ⟨_, gone⟩ | ⟨_, same⟩⟩
  · rw [same]
    exact sole
  · rw [gone]
    intro row listed own
    obtain ⟨old, different⟩ := List.mem_filter.mp listed
    have member := sole row old own
    refine (ModifiedPaths.mem_erase_iff _ _ _).mpr ⟨member, ?_⟩
    intro same
    have equal := List.inj_on_of_nodup_map backed.wellKeyed.distinct member inside
      (same.trans named.symm)
    simp [← equal] at different
  · rw [same]
    exact sole

theorem Sole.compact (sole : store.Sole key) (backed : store.Backed) :
    store.compact.2.Sole key := by
  rcases compact_cases store with same | ⟨_, compacted⟩
  · rw [same]
    exact sole
  · rw [compacted]
    intro row listed own
    obtain ⟨old, kept⟩ := List.mem_filter.mp listed
    exact ModifiedPaths.mem_compacted backed.wellKeyed (sole row old own) (by simpa using kept)

/-- No action lets a row with the key be there besides the entry in memory. -/
theorem Sole.perform (sole : store.Sole key) (backed : store.Backed) (action : PathsAction) :
    (store.perform action).Sole key := by
  cases action with
  | add path isFolder => exact sole.addEntry (normalizeEntry path isFolder)
  | remove path isFolder => exact sole.removeKey backed (caseKey (normalizeEntry path isFolder))
  | compact => exact sole.compact backed
  | shutDown => exact sole
  | reopen sizes =>
      simp only [ModifiedPathsStore.perform]
      split
      · rename_i again opened
        obtain ⟨_, _, read, rows⟩ := load_of_openOn opened
        exact sole_of_load read (rows ▸ sole.not_sharedKey backed.wellKeyed)
      · exact sole

theorem Sole.performAll (sole : store.Sole key) (backed : store.Backed)
    (actions : List PathsAction) : (store.performAll actions).Sole key := by
  induction actions generalizing store with
  | nil => exact sole
  | cons action rest ih => exact ih (sole.perform backed action) (backed.perform action)

/-- Where the only row with its key was in memory, an entry that was removed has no row. -/
theorem Sole.absent_of_removeKey (sole : store.Sole key) (backed : store.Backed)
    (accepted : (store.removeKey key).1.accepted = true) :
    ∀ row ∈ (store.removeKey key).2.database.tables.modifiedPaths, caseKey row ≠ key := by
  intro row listed own
  rcases removeKey_cases key store with
    ⟨absent, same⟩ | ⟨stored, inside, named, _, ⟨_, removed⟩ | ⟨_, refused⟩⟩
  · rw [same] at listed
    have member := sole row listed own
    rw [← ModifiedPaths.find?_eq_some_iff backed.wellKeyed, absent] at member
    exact absurd member (by simp)
  · rw [removed] at listed
    obtain ⟨old, different⟩ := List.mem_filter.mp listed
    have equal := List.inj_on_of_nodup_map backed.wellKeyed.distinct (sole row old own) inside
      named.symm
    simp [← equal] at different
  · rw [refused] at accepted
    simp [UpdateOutcome.failure] at accepted

theorem accepted_removeKey (isOpen : store.database.isShutDown = false) (key : String) :
    (store.removeKey key).1.accepted = true := by
  rcases removeKey_cases key store with ⟨_, same⟩ | ⟨_, _, _, _, ⟨_, removed⟩ | ⟨closed, _⟩⟩
  · rw [same]
    rfl
  · rw [removed]
    rfl
  · exact absurd (isOpen.symm.trans closed) (by simp)

/-- Only one spelling is deleted, so of two one is left. -/
theorem exists_row_of_sharedKey (shared : SharedKey key store.database.tables.modifiedPaths) :
    ∃ row ∈ (store.removeKey key).2.database.tables.modifiedPaths, caseKey row = key := by
  obtain ⟨row, listed, other, otherListed, different, own, otherOwn⟩ := shared
  rcases removeKey_cases key store with
    ⟨_, same⟩ | ⟨deleted, _, _, _, ⟨_, removed⟩ | ⟨_, same⟩⟩
  · rw [same]
    exact ⟨row, listed, own⟩
  · rw [removed]
    by_cases first : row = deleted.2
    · refine ⟨other, List.mem_filter.mpr ⟨otherListed, ?_⟩, otherOwn⟩
      simpa [← first] using different.symm
    · exact ⟨row, List.mem_filter.mpr ⟨listed, by simpa using first⟩, own⟩
  · rw [same]
    exact ⟨row, listed, own⟩

/-- A row at the end of a run was there at the start, unless it was added on the way, or the table
became empty and it is that of the attributes file. -/
theorem mem_rows_performAll {actions : List PathsAction} {row : String}
    (unadded : ∀ earlier action later, actions = earlier ++ action :: later →
      ¬ (store.performAll earlier).Adds row action)
    (listed : row ∈ (store.performAll actions).database.tables.modifiedPaths) :
    row ∈ store.database.tables.modifiedPaths ∨
      row = gitAttributes ∧ ∃ earlier, earlier <+: actions ∧
        (store.performAll earlier).database.tables.modifiedPaths = [] := by
  induction actions using List.reverseRecOn with
  | nil => exact .inl listed
  | append_singleton before last ih =>
      rw [performAll, List.foldl_append] at listed
      rcases mem_rows_perform listed with old | added | ⟨empty, rfl⟩
      · have sooner : ∀ earlier action later, before = earlier ++ action :: later →
            ¬ (store.performAll earlier).Adds row action := by
          rintro earlier action later rfl
          exact unadded earlier action (later ++ [last]) (by simp)
        refine (ih sooner old).imp_right ?_
        rintro ⟨seeded, earlier, inside, empty⟩
        exact ⟨seeded, earlier, inside.trans (List.prefix_append _ _), empty⟩
      · exact absurd added (unadded before last [] rfl)
      · exact .inr ⟨rfl, before, List.prefix_append _ _, empty⟩

/-- An entry was removed from a loaded set and was not added again. If a set that is read from the
rows contains it all the same, the table that was loaded first had its key in two spellings, or the
table became empty meanwhile and the entry is the attributes file. A key in two spellings comes back
in the first set that is read. -/
theorem removed_stays_removed_unless_respelled {database after : Database}
    {loaded : ModifiedPathsStore} (read : load database = (.ok loaded, after)) (path : String)
    (isFolder : Bool) :
    let key := caseKey (normalizeEntry path isFolder)
    (∀ before, ((loaded.performAll before).remove path isFolder).1.accepted = true →
      let removed := ((loaded.performAll before).remove path isFolder).2
      ∀ actions,
        (∀ earlier action later entry, actions = earlier ++ action :: later →
          (removed.performAll earlier).Adds entry action → caseKey entry ≠ key) →
        ∀ source again rest, load source = (.ok again, rest) →
          source.tables.modifiedPaths =
            (removed.performAll actions).database.tables.modifiedPaths →
          again.contains path isFolder = true →
            SharedKey key database.tables.modifiedPaths ∨
            key = caseKey gitAttributes ∧ ∃ earlier, earlier <+: actions ∧
              (removed.performAll earlier).database.tables.modifiedPaths = []) ∧
    (SharedKey key database.tables.modifiedPaths →
      (loaded.remove path isFolder).1.accepted = true ∧
      ∀ source again rest, load source = (.ok again, rest) →
        source.tables.modifiedPaths =
          (loaded.remove path isFolder).2.database.tables.modifiedPaths →
        again.contains path isFolder = true) := by
  intro key
  have loadedBacked := backed_of_load read
  constructor
  · intro before accepted removed actions unadded source again rest reread rows contained
    refine or_iff_not_imp_left.mpr fun single => ?_
    have backed := loadedBacked.performAll before
    have sole : (loaded.performAll before).Sole key :=
      (sole_of_load read single).performAll loadedBacked before
    have absent := sole.absent_of_removeKey backed accepted
    obtain ⟨row, origin, own⟩ := (contains_of_load reread path isFolder).mp contained
    rw [rows] at origin
    rcases origin with listed | ⟨empty, rfl⟩
    · have notAdded : ∀ earlier action later, actions = earlier ++ action :: later →
          ¬ (removed.performAll earlier).Adds row action :=
        fun earlier action later parts adds => unadded earlier action later row parts adds own
      rcases mem_rows_performAll notAdded listed with old | ⟨rfl, emptied⟩
      · exact absurd own (absent row old)
      · exact ⟨own.symm, emptied⟩
    · exact ⟨own.symm, actions, List.prefix_rfl, empty⟩
  · rintro ⟨row, listed, other, otherListed, spellings⟩
    have kept : ∀ spelling ∈ database.tables.modifiedPaths,
        spelling ∈ loaded.database.tables.modifiedPaths := by
      intro spelling member
      simp [(eq_of_load read).1, member]
    refine ⟨accepted_removeKey (eq_of_load read).2 key, ?_⟩
    intro source again rest reread rows
    obtain ⟨spelling, member, same⟩ := exists_row_of_sharedKey
      ⟨row, kept row listed, other, kept other otherListed, spellings⟩
    refine (contains_of_load reread path isFolder).mpr ⟨spelling, .inl ?_, same⟩
    rw [rows]
    exact member

def twoFiles : Database :=
  ⟨{ Tables.empty with modifiedPaths := ["Docs/A.txt", "b"] }, Pool.start ⟨1, 1⟩⟩

/-- Other paths are recorded and removed, and the set is read again in between. -/
theorem removed_file_stays_removed :
    ∃ loaded after, load twoFiles = (.ok loaded, after) ∧
      (loaded.remove "docs/a.TXT" false).1.accepted = true ∧
      ∀ source again rest, load source = (.ok again, rest) →
        source.tables.modifiedPaths = ((loaded.remove "docs/a.TXT" false).2.performAll
          [.add "c" false, .reopen ⟨1, 1⟩, .remove "b" false]).database.tables.modifiedPaths →
        again.contains "Docs/A.txt" false = false := by
  have read := load_of_open (show twoFiles.isShutDown = false by decide) rfl
  have accepted := accepted_removeKey (eq_of_load read).2
    (caseKey (normalizeEntry "docs/a.TXT" false))
  refine ⟨_, _, read, accepted, ?_⟩
  intro source again rest reread rows
  have sameKey : caseKey (normalizeEntry "docs/a.TXT" false) =
      caseKey (normalizeEntry "Docs/A.txt" false) := by decide +kernel
  have others : ∀ (store : ModifiedPathsStore) (entry : String),
      ∀ action ∈ [.add "c" false, .reopen ⟨1, 1⟩, .remove "b" false], store.Adds entry action →
        caseKey entry ≠ caseKey (normalizeEntry "docs/a.TXT" false) := by
    intro store entry action member adds
    simp only [List.mem_cons, List.not_mem_nil, or_false] at member
    rcases member with rfl | rfl | rfl
    · rw [adds.1]
      decide +kernel
    · exact adds.elim
    · exact adds.elim
  rw [contains, ← sameKey, Bool.eq_false_iff]
  intro contained
  rcases (removed_stays_removed_unless_respelled read "docs/a.TXT" false).1 [] accepted _
    (fun earlier action later entry parts => others _ entry action (by rw [parts]; simp))
    source again rest reread rows contained with shared | ⟨seed, _⟩
  · exact absurd shared (by decide +kernel)
  · exact absurd seed (by decide +kernel)

def respelled : Database :=
  ⟨{ Tables.empty with modifiedPaths := ["A.txt", "a.txt"] }, Pool.start ⟨1, 1⟩⟩

/-- A file whose row is there in two spellings is back when the set is read again. -/
theorem respelled_file_comes_back :
    ∃ loaded after again rest, load respelled = (.ok loaded, after) ∧
      (loaded.remove "a.txt" false).1.accepted = true ∧
      (loaded.remove "a.txt" false).2.contains "a.txt" false = false ∧
      load (loaded.remove "a.txt" false).2.database = (.ok again, rest) ∧
      again.contains "a.txt" false = true := by
  have read := load_of_open (show respelled.isShutDown = false by decide) rfl
  refine ⟨_, _, _, _, read, by decide +kernel, by decide +kernel,
    load_of_open (by decide +kernel) (by decide +kernel), by decide +kernel⟩

end ModifiedPathsStore

end Enlistment
