import Enlistment.Proofs.ModifiedPaths.Compaction
import Enlistment.Proofs.Path.Separators

/-!
What a tracked folder does for the entries whose text goes on where its own ends. If the folder is
written with single separators they are below it: they are not added, and compaction drops them. A
folder with two separators next to each other is tracked as it is written, but it is above nothing
and covers nothing but itself.
-/

namespace Enlistment

open Enlistment.Path

namespace Path

def IsEntry (entry : String) : Prop :=
  ∃ path isFolder, entry = normalizeEntry path isFolder

theorem isEntry_gitAttributes : IsEntry gitAttributes :=
  ⟨gitAttributes, false, by decide +kernel⟩

theorem IsEntry.exists_folder {entry : String} (isEntry : IsEntry entry)
    (ends : entry.toList.getLast? = some separator) : ∃ folder, entry = normalizeEntry folder true := by
  obtain ⟨path, isFolder, rfl⟩ := isEntry
  cases isFolder with
  | true => exact ⟨path, rfl⟩
  | false =>
      rw [toList_normalizeEntry_file] at ends
      exact absurd ends (getLast?_trimSeparators path.toList)

theorem not_isAbove_of_doubled {folder : String} (doubled : HasDoubledSeparator folder)
    (entry : String) : ¬ IsAbove folder entry := by
  rintro ⟨above, listed, same⟩
  apply not_hasDoubledSeparator_of_mem_ancestorFolders listed
  rw [← hasDoubledSeparator_caseKey, same, hasDoubledSeparator_caseKey]
  exact doubled

end Path

namespace ModifiedPaths

/-- Leaving out an entry matters to none but itself and what it is above. -/
theorem covers_erase {folder entry : String} (notAbove : ¬ IsAbove folder entry)
    (different : caseKey entry ≠ caseKey folder) (paths : ModifiedPaths) :
    (paths.erase (caseKey folder)).covers entry = paths.covers entry := by
  rw [Bool.eq_iff_iff]
  constructor
  · exact covers_mono fun key found => ((hasKey_erase _ _ _).mp found).1
  · rw [covers_iff, covers_iff, hasAncestor_iff, hasAncestor_iff]
    rintro (own | ⟨above, listed, found⟩)
    · exact .inl ((hasKey_erase _ _ _).mpr ⟨own, different⟩)
    · refine .inr ⟨above, listed, (hasKey_erase _ _ _).mpr ⟨found, ?_⟩⟩
      exact fun same => notAbove ⟨above, listed, same⟩

end ModifiedPaths

namespace ModifiedPathsStore

variable {store : ModifiedPathsStore}

theorem addEntry_of_covers {entry : String} (covered : store.paths.covers entry = true) :
    store.addEntry entry = (.success, store) := by
  simp [addEntry, covered]

def RowsAreEntries (store : ModifiedPathsStore) : Prop :=
  ∀ row ∈ store.database.tables.modifiedPaths, IsEntry row

theorem RowsAreEntries.perform (entries : store.RowsAreEntries) (action : PathsAction) :
    (store.perform action).RowsAreEntries := by
  intro row listed
  rcases mem_rows_perform listed with old | added | ⟨_, rfl⟩
  · exact entries row old
  · cases action with
    | add path isFolder => exact ⟨path, isFolder, added.1⟩
    | remove path isFolder => exact added.elim
    | compact => exact added.elim
    | shutDown => exact added.elim
    | reopen sizes => exact added.elim
  · exact isEntry_gitAttributes

theorem RowsAreEntries.performAll (entries : store.RowsAreEntries) (actions : List PathsAction) :
    (store.performAll actions).RowsAreEntries :=
  List.foldlRecOn actions _ entries fun _ entries action _ => entries.perform action

theorem rowsAreEntries_of_load {database after : Database}
    (read : load database = (.ok store, after))
    (entries : ∀ row ∈ database.tables.modifiedPaths, IsEntry row) : store.RowsAreEntries := by
  intro row listed
  rw [(eq_of_load read).1, modifiedPaths_seed, mem_seed_iff] at listed
  rcases listed with old | ⟨_, rfl⟩
  · exact entries row old
  · exact isEntry_gitAttributes

/-- In a set that was built by adding, with whatever else in between, let a tracked folder have a
name and consider the entries whose case keys start with its own and go on. If its separators are
single, adding such an entry changes nothing and a compaction leaves none of them. If two of its
separators are next to each other, what other entries are covered does not depend on it. -/
theorem tracked_folder_covers_below_unless_doubled {database after : Database}
    {loaded : ModifiedPathsStore} (read : load database = (.ok loaded, after))
    (entries : ∀ row ∈ database.tables.modifiedPaths, IsEntry row) (actions : List PathsAction)
    {folder : String} (tracked : folder ∈ (loaded.performAll actions).paths.all)
    (ends : folder.toList.getLast? = some separator) (named : segments folder.toList ≠ []) :
    let store := loaded.performAll actions
    (¬ HasDoubledSeparator folder → ∀ path isFolder,
      (caseKey folder).toList <+: (caseKey (normalizeEntry path isFolder)).toList →
      caseKey folder ≠ caseKey (normalizeEntry path isFolder) →
        store.add path isFolder = (.success, store) ∧
        (store.database.isShutDown = false →
          store.compact.2.contains path isFolder = false)) ∧
    (HasDoubledSeparator folder → ∀ entry, caseKey entry ≠ caseKey folder →
      (store.paths.erase (caseKey folder)).covers entry = store.paths.covers entry) := by
  intro store
  have backed : store.Backed := (backed_of_load read).performAll actions
  obtain ⟨stored, member, rfl⟩ := List.mem_map.mp tracked
  have row := ((rowsAreEntries_of_load read entries).performAll actions) _
    (backed.stored stored member)
  have found : store.paths.hasKey (caseKey stored.2) = true :=
    (ModifiedPaths.hasKey_iff _ _).mpr ⟨stored, member, backed.wellKeyed.keyed stored member⟩
  constructor
  · intro single path isFolder starts different
    obtain ⟨folder, spelled⟩ := row.exists_folder ends
    rw [spelled] at named single starts different found
    have above : IsAbove (normalizeEntry folder true) (normalizeEntry path isFolder) :=
      exists_ancestor_of_caseKey_prefix named single starts different
    have redundant : store.paths.hasAncestor (normalizeEntry path isFolder) = true :=
      (ModifiedPaths.hasAncestor_iff_isAbove _).mpr ⟨_, found, above⟩
    refine ⟨addEntry_of_covers ((ModifiedPaths.covers_iff _ _).mpr (.inr redundant)), ?_⟩
    intro isOpen
    rw [contains, paths_compact isOpen, Bool.eq_false_iff]
    intro kept
    exact ((ModifiedPaths.hasKey_compacted_iff backed.wellKeyed _).mp kept).2 redundant
  · intro doubled entry different
    exact ModifiedPaths.covers_erase (not_isAbove_of_doubled doubled entry) different store.paths

def freshDatabase : Database :=
  ⟨{ Tables.empty with version := schemaVersion }, Pool.start ⟨1, 1⟩⟩

/-- A folder that was recorded after a file in it, under another spelling. -/
theorem folder_covers_file_of_other_case :
    ∃ loaded after, load freshDatabase = (.ok loaded, after) ∧
      let store := loaded.performAll [.add "Src/B/c.txt" false, .add "src/b/" true]
      "src/b/" ∈ store.paths.all ∧ "Src/B/c.txt" ∈ store.paths.all ∧
      store.add "/SRC/b/c.TXT" false = (.success, store) ∧
      store.compact.2.contains "Src/B/c.txt" false = false := by
  have read := load_of_open (show freshDatabase.isShutDown = false by decide) rfl
  have entries : ∀ row ∈ freshDatabase.tables.modifiedPaths, IsEntry row := by
    intro row listed
    exact absurd listed (by decide +revert)
  obtain ⟨below, _⟩ := tracked_folder_covers_below_unless_doubled read entries
    [.add "Src/B/c.txt" false, .add "src/b/" true]
    (show "src/b/" ∈ _ by decide +kernel) (by decide +kernel) (by decide +kernel)
  have single : ¬ HasDoubledSeparator "src/b/" := by decide +kernel
  refine ⟨_, _, read, by decide +kernel, by decide +kernel, ?_, ?_⟩
  · exact (below single "/SRC/b/c.TXT" false (by decide +kernel) (by decide +kernel)).1
  · exact (below single "Src/B/c.txt" false (by decide +kernel) (by decide +kernel)).2
      (by decide +kernel)

/-- With `a//b/` tracked, `a//b/c.txt` is recorded all the same. -/
theorem doubled_folder_does_not_cover_below :
    ∃ loaded after, load freshDatabase = (.ok loaded, after) ∧
      let store := loaded.performAll [.add "a//b" true]
      "a//b/" ∈ store.paths.all ∧ segments "a//b/".toList ≠ [] ∧
      (caseKey "a//b/").toList <+: (caseKey (normalizeEntry "a//b/c.txt" false)).toList ∧
      caseKey "a//b/" ≠ caseKey (normalizeEntry "a//b/c.txt" false) ∧
      (store.add "a//b/c.txt" false).2 ≠ store := by
  have read := load_of_open (show freshDatabase.isShutDown = false by decide) rfl
  refine ⟨_, _, read, ?_⟩
  decide +kernel

end ModifiedPathsStore

end Enlistment
