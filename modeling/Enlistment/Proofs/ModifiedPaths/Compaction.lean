import Enlistment.Proofs.ModifiedPaths.Backing
import Enlistment.Proofs.ModifiedPaths.Subsumption

/-!
What a compaction leaves. Of the entries of a set it keeps those that have no folder above them in the
set; what the set covers is the same afterwards, and there is nothing left for a second compaction.
An entry that is new to the set is left out by adding exactly if a compaction would drop it.
-/

namespace Enlistment

open Enlistment.Path

namespace ModifiedPaths

variable {paths : ModifiedPaths}

theorem mem_all_compacted_iff (wellKeyed : paths.WellKeyed) (entry : String) :
    entry ∈ paths.compacted.all ↔ entry ∈ paths.all ∧ paths.hasAncestor entry = false := by
  have dropped : paths.redundant ⊆ paths.entries := List.filter_sublist.subset
  rw [compacted, all_foldl_erase wellKeyed dropped, List.mem_filter]
  refine and_congr_right fun listed => ?_
  obtain ⟨stored, member, rfl⟩ := List.mem_map.mp listed
  simp only [List.contains_eq_mem, Bool.not_eq_true', decide_eq_false_iff_not, List.mem_map,
    redundant, List.mem_filter, not_exists, not_and, and_imp]
  constructor
  · intro kept
    rw [Bool.eq_false_iff]
    intro covered
    exact kept stored member covered rfl
  · intro needed other _ covered same
    rw [same, needed] at covered
    exact absurd covered (by simp)

theorem covers_compacted (wellKeyed : paths.WellKeyed) (entry : String) :
    paths.compacted.covers entry = paths.covers entry := by
  rw [Bool.eq_iff_iff]
  constructor
  · exact covers_mono fun key found => ((hasKey_foldl_erase _ _ _).mp found).1
  · exact compacted_covers wellKeyed

theorem redundant_compacted (wellKeyed : paths.WellKeyed) : paths.compacted.redundant = [] := by
  refine List.filter_eq_nil_iff.mpr ?_
  intro stored member
  rw [hasAncestor_compacted wellKeyed (List.mem_map_of_mem member)]
  simp

/-- An entry is not above itself, so putting it into the set does not make it redundant. -/
@[simp]
theorem hasAncestor_put_self (entry : String) (paths : ModifiedPaths) :
    (paths.put entry).hasAncestor entry = paths.hasAncestor entry := by
  rw [Bool.eq_iff_iff, hasAncestor_iff, hasAncestor_iff]
  refine exists_congr fun folder => and_congr_right fun above => ?_
  rw [hasKey_put]
  refine or_iff_right ?_
  intro same
  have deeper := depth_lt_of_mem_ancestorFolders above
  rw [← depth_caseKey folder, same, depth_caseKey] at deeper
  exact Nat.lt_irrefl _ deeper

end ModifiedPaths

namespace ModifiedPathsStore

variable {store : ModifiedPathsStore}

theorem compact_of_topmost (topmost : store.paths.redundant = []) :
    store.compact = (.ok ⟨store.paths.count, store.paths.count⟩, store) := by
  simp [compact, topmost]

theorem compact_of_open (isOpen : store.database.isShutDown = false) :
    ∃ database, store.compact =
      (.ok ⟨store.paths.count, store.paths.compacted.count⟩, ⟨database, store.paths.compacted⟩) := by
  by_cases topmost : store.paths.redundant = []
  · refine ⟨store.database, (compact_of_topmost topmost).trans ?_⟩
    simp [ModifiedPaths.compacted, topmost]
  · have updated := Database.update_of_open isOpen
      (Tables.deleteModifiedPaths (store.paths.redundant.map (·.2)))
    refine ⟨⟨store.database.tables.deleteModifiedPaths (store.paths.redundant.map (·.2)),
      store.database.pool.used⟩, ?_⟩
    simp only [compact, List.isEmpty_iff, topmost, if_false, updated]
    rfl

/-- On an open store adding leaves out what is covered, and nothing else. -/
theorem addEntry_eq_self_iff (isOpen : store.database.isShutDown = false) (entry : String) :
    store.addEntry entry = (.success, store) ↔ store.paths.covers entry = true := by
  rcases addEntry_cases entry store with ⟨covered, same⟩ | ⟨uncovered, _, added⟩ | ⟨_, closed, _⟩
  · simp [covered, same]
  · rw [added, uncovered]
    refine ⟨fun same => ?_, fun impossible => absurd impossible (by simp)⟩
    have unchanged : store.paths.put entry = store.paths :=
      congrArg (fun outcome => outcome.2.paths) same
    rw [← uncovered, ← unchanged]
    simp
  · exact absurd (isOpen.symm.trans closed) (by simp)

def withEntry (entry : String) (store : ModifiedPathsStore) : ModifiedPathsStore :=
  ⟨{ store.database with tables := store.database.tables.insertModifiedPath entry },
    store.paths.put entry⟩

/-- After a compaction an added entry is gone exactly if a folder above it was there before. -/
theorem contains_compact_withEntry (backed : store.Backed)
    (isOpen : store.database.isShutDown = false) (path : String) (isFolder : Bool) :
    (store.withEntry (normalizeEntry path isFolder)).compact.2.contains path isFolder = false ↔
      store.paths.hasAncestor (normalizeEntry path isFolder) = true := by
  have stillOpen : (store.withEntry (normalizeEntry path isFolder)).database.isShutDown = false :=
    isOpen
  have kept := ModifiedPaths.hasKey_compacted_iff
    (backed.wellKeyed.put (normalizeEntry path isFolder)) (normalizeEntry path isFolder)
  rw [contains, paths_compact stillOpen, withEntry, ← Bool.not_eq_true, kept]
  simp

/-- Whatever rows a set was loaded from and whatever was done with it: on an open store a compaction
keeps exactly the entries that no folder of the set is above, and reports their number; it changes
nothing in what is covered, nor does a second one change anything. An entry that the set does not
contain is left out by adding exactly if a compaction of the set with that entry drops it. -/
theorem compaction_keeps_topmost {database after : Database} {loaded : ModifiedPathsStore}
    (read : load database = (.ok loaded, after)) (actions : List PathsAction)
    (isOpen : (loaded.performAll actions).database.isShutDown = false) :
    let store := loaded.performAll actions
    ∃ compacted,
      store.compact = (.ok ⟨store.paths.all.length, compacted.paths.all.length⟩, compacted) ∧
      (∀ entry, entry ∈ compacted.paths.all ↔ entry ∈ store.paths.all ∧
        ∀ folder ∈ ancestorFolders entry, store.paths.hasKey (caseKey folder) = false) ∧
      (∀ entry, compacted.paths.covers entry = store.paths.covers entry) ∧
      compacted.compact =
        (.ok ⟨compacted.paths.all.length, compacted.paths.all.length⟩, compacted) ∧
      ∀ path isFolder, store.contains path isFolder = false →
        (store.add path isFolder = (.success, store) ↔
          (store.withEntry (normalizeEntry path isFolder)).compact.2.contains path isFolder =
            false) := by
  intro store
  have backed : store.Backed := (backed_of_load read).performAll actions
  have count : ∀ paths : ModifiedPaths, paths.all.length = paths.count :=
    fun paths => List.length_map _
  obtain ⟨database, compacted⟩ := compact_of_open isOpen
  refine ⟨⟨database, store.paths.compacted⟩, ?_, ?_, ?_, ?_, ?_⟩
  · rw [count, count]
    exact compacted
  · intro entry
    rw [ModifiedPaths.mem_all_compacted_iff backed.wellKeyed, ModifiedPaths.hasAncestor,
      List.any_eq_false]
    simp only [Bool.not_eq_true]
  · exact ModifiedPaths.covers_compacted backed.wellKeyed
  · rw [count]
    exact compact_of_topmost (ModifiedPaths.redundant_compacted backed.wellKeyed)
  · intro path isFolder absent
    rw [contains_compact_withEntry backed isOpen]
    refine (addEntry_eq_self_iff isOpen _).trans ((ModifiedPaths.covers_iff _ _).trans ?_)
    exact or_iff_right (Bool.eq_false_iff.mp absent)

def nested : Database :=
  ⟨{ Tables.empty with modifiedPaths := ["A/B/", "a/", "a/b/C.txt", "docs/x"] }, Pool.start ⟨1, 1⟩⟩

/-- The file is dropped for the inner folder, which is dropped as well, and stays covered. -/
theorem compaction_of_nested_folders :
    ∃ loaded after compacted, load nested = (.ok loaded, after) ∧
      (loaded.performAll [.add "Docs/Y" false]).compact =
        (.ok ⟨5, compacted.paths.all.length⟩, compacted) ∧
      ("A/B/" ∉ compacted.paths.all ∧ "a/b/C.txt" ∉ compacted.paths.all ∧
        "a/" ∈ compacted.paths.all ∧ "docs/x" ∈ compacted.paths.all ∧
        "Docs/Y" ∈ compacted.paths.all) ∧
      compacted.paths.covers "a/b/C.txt" = true ∧
      compacted.compact.1 =
        .ok ⟨compacted.paths.all.length, compacted.paths.all.length⟩ := by
  have isOpen : nested.isShutDown = false := by decide
  have read := load_of_open isOpen rfl
  obtain ⟨compacted, counted, kept, covered, again, _⟩ :=
    compaction_keeps_topmost read [.add "Docs/Y" false] (by decide +kernel)
  refine ⟨_, _, compacted, read, counted, ?_, ?_, congrArg Prod.fst again⟩
  · simp only [kept]
    decide +kernel
  · rw [covered]
    decide +kernel

end ModifiedPathsStore

end Enlistment
