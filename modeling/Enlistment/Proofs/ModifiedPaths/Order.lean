import Enlistment.Proofs.ModifiedPaths.Coverage
import Mathlib.Data.Finset.Insert

/-!
Entries that are recorded in any order. What is stored on the way depends on the order, as an entry
is left out once a folder above it is there. But nothing that is stored was not asked for, and
everything that was asked for is covered; so a last compaction leaves the entries that have no
folder above them, whatever came first.
-/

namespace Enlistment

open Enlistment.Path

namespace ModifiedPaths

def keys (paths : ModifiedPaths) : Finset String :=
  (paths.entries.map (·.1)).toFinset

@[simp]
theorem mem_keys (key : String) (paths : ModifiedPaths) :
    key ∈ paths.keys ↔ paths.hasKey key = true := by
  rw [hasKey_iff, keys, List.mem_toFinset, List.mem_map]

theorem hasKey_compacted_iff {paths : ModifiedPaths} (wellKeyed : paths.WellKeyed) (entry : String) :
    paths.compacted.hasKey (caseKey entry) = true ↔
      paths.hasKey (caseKey entry) = true ∧ paths.hasAncestor entry ≠ true := by
  constructor
  · intro kept
    obtain ⟨found, different⟩ := (hasKey_foldl_erase _ _ _).mp kept
    refine ⟨found, ?_⟩
    intro redundant
    obtain ⟨stored, member, same⟩ := (hasKey_iff _ _).mp found
    rw [wellKeyed.keyed stored member] at same
    have dropped : stored ∈ paths.redundant := by
      refine List.mem_filter.mpr ⟨member, ?_⟩
      rw [hasAncestor_congr same]
      exact redundant
    exact different stored dropped ((wellKeyed.keyed stored member).trans same).symm
  · rintro ⟨found, needed⟩
    obtain ⟨stored, member, same⟩ := (hasKey_iff _ _).mp found
    rw [← same]
    refine hasKey_compacted wellKeyed member ?_
    rw [hasAncestor_congr ((wellKeyed.keyed stored member).symm.trans same)]
    exact needed

end ModifiedPaths

/-- The case keys of those entries that have no folder above them among the entries. -/
def topmostKeys (entries : List String) : Finset String :=
  ((entries.filter fun entry => (ancestorFolders entry).all fun folder =>
    !(entries.map caseKey).contains (caseKey folder)).map caseKey).toFinset

theorem mem_topmostKeys (key : String) (entries : List String) :
    key ∈ topmostKeys entries ↔
      ∃ entry ∈ entries, caseKey entry = key ∧
        ∀ folder ∈ ancestorFolders entry, ∀ other ∈ entries, caseKey other ≠ caseKey folder := by
  simp only [topmostKeys, List.mem_toFinset, List.mem_map, List.mem_filter, List.all_eq_true,
    Bool.not_eq_true', List.contains_eq_mem, decide_eq_false_iff_not, not_exists, not_and]
  constructor
  · rintro ⟨entry, ⟨listed, alone⟩, same⟩
    exact ⟨entry, listed, same, alone⟩
  · rintro ⟨entry, listed, same, alone⟩
    exact ⟨entry, ⟨listed, alone⟩, same⟩

theorem topmostKeys_perm {left right : List String} (same : left.Perm right) :
    topmostKeys left = topmostKeys right := by
  ext key
  simp only [mem_topmostKeys, same.mem_iff]

structure PathRequest where
  path : String
  isFolder : Bool
deriving DecidableEq

def PathRequest.entry (request : PathRequest) : String :=
  normalizeEntry request.path request.isFolder

inductive Recording where
  | add (request : PathRequest)
  | compact

def Recording.request? : Recording → Option PathRequest
  | .add request => some request
  | .compact => none

namespace ModifiedPathsStore

def record (store : ModifiedPathsStore) : Recording → ModifiedPathsStore
  | .add request => (store.add request.path request.isFolder).2
  | .compact => store.compact.2

def recordAll (recordings : List Recording) (store : ModifiedPathsStore) : ModifiedPathsStore :=
  recordings.foldl record store

/-- The set holds none but these entries, and covers them all. -/
structure Holds (entries : List String) (store : ModifiedPathsStore) : Prop where
  isOpen : store.database.isShutDown = false
  wellKeyed : store.paths.WellKeyed
  known : ∀ key, store.paths.hasKey key = true → ∃ entry ∈ entries, caseKey entry = key
  covered : ∀ entry ∈ entries, store.paths.covers entry = true

theorem paths_compact {store : ModifiedPathsStore} (isOpen : store.database.isShutDown = false) :
    store.compact.2.paths = store.paths.compacted := by
  unfold compact
  simp only
  split
  · rename_i none
    rw [ModifiedPaths.compacted, List.isEmpty_iff.mp none]
    rfl
  · rw [Database.update_of_open isOpen]
    rfl

namespace Holds

variable {entries : List String} {store : ModifiedPathsStore}

theorem addEntry (holds : store.Holds entries) (entry : String) :
    (store.addEntry entry).2.Holds (entries ++ [entry]) := by
  have weaker : ∀ key, (∃ other ∈ entries, caseKey other = key) →
      ∃ other ∈ entries ++ [entry], caseKey other = key := by
    rintro key ⟨other, listed, same⟩
    exact ⟨other, List.mem_append_left _ listed, same⟩
  rcases addEntry_cases entry store with ⟨covered, same⟩ | ⟨_, _, added⟩ | ⟨_, closed, _⟩
  · rw [same]
    refine ⟨holds.isOpen, holds.wellKeyed, fun key found => weaker key (holds.known key found), ?_⟩
    intro other listed
    rcases List.mem_append.mp listed with old | new
    · exact holds.covered other old
    · rw [List.mem_singleton.mp new]
      exact covered
  · rw [added]
    refine ⟨(Pool.isShutDown_used _).trans holds.isOpen, holds.wellKeyed.put entry, ?_, ?_⟩
    · intro key found
      rcases (ModifiedPaths.hasKey_put _ _ _).mp found with same | old
      · exact ⟨entry, List.mem_append_right _ List.mem_cons_self, same.symm⟩
      · exact weaker key (holds.known key old)
    · intro other listed
      rcases List.mem_append.mp listed with old | new
      · exact ModifiedPaths.covers_mono (fun _ => ModifiedPaths.hasKey_put_of_hasKey entry)
          (holds.covered other old)
      · rw [List.mem_singleton.mp new]
        simp
  · exact absurd (holds.isOpen.symm.trans closed) (by simp)

theorem compact (holds : store.Holds entries) : store.compact.2.Holds entries := by
  have stillOpen : store.compact.2.database.isShutDown = false := by
    rcases compact_cases store with same | ⟨_, compacted⟩
    · rw [same]
      exact holds.isOpen
    · rw [compacted]
      exact (Pool.isShutDown_used _).trans holds.isOpen
  have paths := paths_compact holds.isOpen
  refine ⟨stillOpen, ?_, ?_, ?_⟩
  · rw [paths]
    exact holds.wellKeyed.compacted
  · rw [paths]
    intro key found
    exact holds.known key ((ModifiedPaths.hasKey_foldl_erase _ _ _).mp found).1
  · rw [paths]
    intro entry listed
    exact ModifiedPaths.compacted_covers holds.wellKeyed (holds.covered entry listed)

theorem recordAll (holds : store.Holds entries) (recordings : List Recording) :
    (store.recordAll recordings).Holds
      (entries ++ (recordings.filterMap Recording.request?).map PathRequest.entry) := by
  induction recordings generalizing entries store with
  | nil => simpa [ModifiedPathsStore.recordAll] using holds
  | cons recording rest ih =>
      cases recording with
      | add request =>
          have later := ih (holds.addEntry request.entry)
          rw [List.append_assoc] at later
          exact later
      | compact => exact ih holds.compact

/-- An entry that nothing above it covers has to be there itself; and what is there, with nothing
above it there, has nothing above it at all. -/
theorem keys_compact (holds : store.Holds entries) :
    store.compact.2.paths.keys = topmostKeys entries := by
  ext key
  rw [paths_compact holds.isOpen, ModifiedPaths.mem_keys, mem_topmostKeys]
  constructor
  · intro kept
    obtain ⟨entry, listed, rfl⟩ := holds.known key ((ModifiedPaths.hasKey_foldl_erase _ _ _).mp kept).1
    obtain ⟨_, needed⟩ := (ModifiedPaths.hasKey_compacted_iff holds.wellKeyed entry).mp kept
    refine ⟨entry, listed, rfl, ?_⟩
    intro folder above other tracked same
    have covered := holds.covered other tracked
    rw [ModifiedPaths.covers_congr_entry same, ModifiedPaths.covers_iff,
      ModifiedPaths.hasAncestor_iff] at covered
    apply needed
    rw [ModifiedPaths.hasAncestor_iff]
    rcases covered with own | ⟨outer, outside, found⟩
    · exact ⟨folder, above, own⟩
    · exact ⟨outer, mem_ancestorFolders_trans outside above, found⟩
  · rintro ⟨entry, listed, rfl, alone⟩
    have needed : store.paths.hasAncestor entry ≠ true := by
      intro redundant
      obtain ⟨folder, above, found⟩ := (ModifiedPaths.hasAncestor_iff _ _).mp redundant
      obtain ⟨other, tracked, same⟩ := holds.known _ found
      exact alone folder above other tracked same
    have found := ((ModifiedPaths.covers_iff _ _).mp (holds.covered entry listed)).resolve_right needed
    exact (ModifiedPaths.hasKey_compacted_iff holds.wellKeyed entry).mpr ⟨found, needed⟩

theorem of_load {database after : Database} (loaded : load database = (.ok store, after)) :
    store.Holds store.paths.all := by
  cases state : database.isShutDown with
  | true =>
      rw [load_of_shutDown state] at loaded
      exact absurd (congrArg Prod.fst loaded) (by simp)
  | false =>
      rw [load_of_open state (readable_of_load loaded)] at loaded
      obtain rfl := Except.ok.inj (congrArg Prod.fst loaded)
      have wellKeyed := ModifiedPaths.wellKeyed_ofEntries (seed database.tables).1
      refine ⟨(Pool.isShutDown_used _).trans state, wellKeyed, ?_, ?_⟩
      · intro key found
        obtain ⟨stored, member, same⟩ := (ModifiedPaths.hasKey_iff _ _).mp found
        rw [wellKeyed.keyed stored member] at same
        exact ⟨stored.2, List.mem_map_of_mem member, same⟩
      · intro entry listed
        obtain ⟨stored, member, rfl⟩ := List.mem_map.mp listed
        refine (ModifiedPaths.covers_iff _ _).mpr (.inl ?_)
        exact (ModifiedPaths.hasKey_iff _ _).mpr ⟨stored, member, wellKeyed.keyed stored member⟩

end Holds

/-- Whatever the order in which paths are recorded, and whenever the set is compacted on the way, a
last compaction leaves the keys of the entries, loaded or recorded, that are below no other. -/
theorem compacted_keys_of_any_order {database after : Database} {store : ModifiedPathsStore}
    (loaded : load database = (.ok store, after)) {requests : List PathRequest}
    {one other : List Recording} (oneOrder : (one.filterMap Recording.request?).Perm requests)
    (otherOrder : (other.filterMap Recording.request?).Perm requests) :
    (store.recordAll one).compact.2.paths.keys =
        topmostKeys (store.paths.all ++ requests.map PathRequest.entry) ∧
      (store.recordAll other).compact.2.paths.keys =
        topmostKeys (store.paths.all ++ requests.map PathRequest.entry) := by
  have ordered : ∀ recordings : List Recording,
      (recordings.filterMap Recording.request?).Perm requests →
        (store.recordAll recordings).compact.2.paths.keys =
          topmostKeys (store.paths.all ++ requests.map PathRequest.entry) := by
    intro recordings order
    have holds := (Holds.of_load loaded).recordAll recordings
    rw [holds.keys_compact]
    exact topmostKeys_perm ((order.map PathRequest.entry).append_left store.paths.all)
  exact ⟨ordered one oneOrder, ordered other otherOrder⟩

def documented : Database :=
  ⟨{ Tables.empty with modifiedPaths := ["docs/x"] }, Pool.start ⟨1, 1⟩⟩

def folderAfterItsFile : List Recording :=
  [.add ⟨"A/b", false⟩, .add ⟨"a", true⟩, .add ⟨"Docs/Y", false⟩]

def folderBeforeItsFile : List Recording :=
  [.add ⟨"a", true⟩, .compact, .add ⟨"Docs/Y", false⟩, .add ⟨"A/b", false⟩]

theorem compacted_keys_of_folder_and_its_file :
    ∃ store after, load documented = (.ok store, after) ∧
      (store.recordAll folderAfterItsFile).compact.2.paths.keys = {"docs/x", "a/", "docs/y"} ∧
      (store.recordAll folderBeforeItsFile).compact.2.paths.keys = {"docs/x", "a/", "docs/y"} := by
  have isOpen : documented.isShutDown = false := by decide
  have loaded := load_of_open isOpen rfl
  have topmost : topmostKeys (["docs/x"] ++
      (folderAfterItsFile.filterMap Recording.request?).map PathRequest.entry) =
        {"docs/x", "a/", "docs/y"} := by
    decide +kernel
  have reordered : (folderBeforeItsFile.filterMap Recording.request?).Perm
      (folderAfterItsFile.filterMap Recording.request?) := by
    decide
  refine ⟨_, _, loaded, ?_⟩
  rw [← topmost]
  exact compacted_keys_of_any_order loaded (.refl _) reordered

end ModifiedPathsStore

end Enlistment
