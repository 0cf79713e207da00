import Enlistment.Proofs.Placeholder.Bindings

/-!
The placeholders as a user of the store sees them. Whatever is done with them, the table holds the
map that the writes made, and the memory holds nothing but answers that this map would give; so an
open store answers as the map does, whether or not it remembers the answer. Paths that the table
takes for one another, as they agree up to a zero character, are left out; the last statement shows
what they do.
-/

namespace Enlistment

open Enlistment.Text (asciiLowercase)

inductive PlaceholderAction where
  | add (record : PlaceholderRecord)
  | remove (path : String)
  | contains (path : String)
  | count
  | entries
  | filePaths
  | shutDown
  | reopen (sizes : PoolSizes)
  /-- The memory has little room, and drops answers when it likes. -/
  | forget (kept : String → Bool)

def PlaceholderAction.path? : PlaceholderAction → Option String
  | .add record => some record.path
  | .remove path => some path
  | .contains path => some path
  | _ => none

structure WrittenPlaceholders where
  bindings : PlaceholderMap
  isOpen : Bool

namespace WrittenPlaceholders

def perform (written : WrittenPlaceholders) : PlaceholderAction → WrittenPlaceholders
  | .add record =>
      if written.isOpen then
        { written with
          bindings := written.bindings.insert (asciiLowercase record.path) record }
      else written
  | .remove path =>
      if written.isOpen then
        { written with bindings := written.bindings.erase (asciiLowercase path) }
      else written
  | .shutDown => { written with isOpen := false }
  | .reopen _ => { written with isOpen := true }
  | .contains _ | .count | .entries | .filePaths | .forget _ => written

def performAll (actions : List PlaceholderAction) (written : WrittenPlaceholders) :
    WrittenPlaceholders :=
  actions.foldl perform written

end WrittenPlaceholders

namespace PlaceholderMemory

def forget (kept : String → Bool) (memory : PlaceholderMemory) : PlaceholderMemory :=
  ⟨memory.answers.filter fun answer => kept answer.1⟩

theorem lookup_filter (kept : String → Bool) (key : String) (answers : List (String × Bool)) :
    (answers.filter fun answer => kept answer.1).lookup key =
      if kept key then answers.lookup key else none := by
  induction answers with
  | nil => simp
  | cons first rest ih =>
      obtain ⟨other, present⟩ := first
      by_cases own : key = other
      · subst own
        cases keeps : kept key <;> simp [keeps, ih]
      · have differs : (key == other) = false := beq_eq_false_iff_ne.mpr own
        cases keeps : kept other <;> simp [List.lookup_cons, differs, keeps, ih]

@[simp]
theorem lookup_remember (path key : String) (present : Bool) (memory : PlaceholderMemory) :
    (memory.remember path present).answers.lookup key =
      if key = asciiLowercase path then some present else memory.answers.lookup key := by
  rw [remember, List.lookup_cons]
  by_cases own : key = asciiLowercase path
  · simp [own]
  · have other : (key == asciiLowercase path) = false := beq_eq_false_iff_ne.mpr own
    rw [other, if_neg own]
    refine (lookup_filter (· != asciiLowercase path) key memory.answers).trans ?_
    rw [if_pos (bne_iff_ne.mpr own)]

def Agrees (bindings : PlaceholderMap) (memory : PlaceholderMemory) : Prop :=
  ∀ key present, memory.answers.lookup key = some present → present = decide (key ∈ bindings)

theorem agrees_empty (bindings : PlaceholderMap) : empty.Agrees bindings := by
  intro key present found
  simp [empty] at found

theorem Agrees.forget {bindings : PlaceholderMap} {memory : PlaceholderMemory}
    (agrees : memory.Agrees bindings) (kept : String → Bool) :
    (memory.forget kept).Agrees bindings := by
  intro key present found
  rw [PlaceholderMemory.forget, lookup_filter] at found
  split at found
  · exact agrees key present found
  · simp at found

/-- A map that changed at most at a path agrees once its answer there is remembered. -/
theorem Agrees.remember {bindings changed : PlaceholderMap} {memory : PlaceholderMemory}
    (agrees : memory.Agrees bindings) {path : String}
    (elsewhere : ∀ key, key ≠ asciiLowercase path → (key ∈ changed ↔ key ∈ bindings)) :
    (memory.remember path (decide (asciiLowercase path ∈ changed))).Agrees changed := by
  intro key present found
  rw [lookup_remember] at found
  split at found
  · rename_i own
    rw [own]
    exact (Option.some.inj found).symm
  · rename_i other
    rw [agrees key present found, decide_eq_decide]
    exact (elsewhere key other).symm

end PlaceholderMemory

namespace PlaceholderStore

def openOn (sizes : PoolSizes) (tables : Tables) : Except DatabaseError PlaceholderStore := do
  pure ⟨← Database.openOn sizes tables, .empty⟩

def perform (store : PlaceholderStore) :
    PlaceholderAction → Except DatabaseError Unit × PlaceholderStore
  | .add record => store.add record
  | .remove path => store.remove path
  | .contains path => ((store.contains path).1.map fun _ => (), (store.contains path).2)
  | .count => (store.count.1.map fun _ => (), store.count.2)
  | .entries => (store.entries.1.map fun _ => (), store.entries.2)
  | .filePaths => (store.filePaths.1.map fun _ => (), store.filePaths.2)
  | .shutDown => (.ok (), { store with database := store.database.shutDown })
  | .reopen sizes =>
      match openOn sizes store.database.tables with
      | .ok again => (.ok (), again)
      | .error error => (.error error, store)
  | .forget kept => (.ok (), { store with memory := store.memory.forget kept })

def performAll (actions : List PlaceholderAction) (store : PlaceholderStore) : PlaceholderStore :=
  actions.foldl (fun store action => (store.perform action).2) store

theorem openOn_of_known (sizes : PoolSizes) {tables : Tables}
    (known : tables.version ≤ Enlistment.schemaVersion) :
    openOn sizes tables =
      .ok ⟨⟨{ tables with version := Enlistment.schemaVersion }, Pool.start sizes⟩, .empty⟩ := by
  rw [openOn, Database.openOn_of_known sizes known]
  rfl

theorem write_cases (path : String) (present : Bool) (change : Tables → Tables)
    (store : PlaceholderStore) :
    (store.database.isShutDown = false ∧
      store.write path present change =
        (.ok (), ⟨⟨change store.database.tables, store.database.pool.used⟩,
          store.memory.remember path present⟩)) ∨
    (store.database.isShutDown = true ∧
      store.write path present change = (.error .shutDown, store)) := by
  unfold write
  rcases Database.update_cases change store.database with ⟨isOpen, updated⟩ | ⟨closed, refused⟩
  · exact .inl ⟨isOpen, by rw [updated]⟩
  · exact .inr ⟨closed, by rw [refused]⟩

theorem contains_cases (path : String) (store : PlaceholderStore) :
    (∃ present, store.memory.remembered? path = some present ∧
      store.contains path = (.ok present, store)) ∨
    (store.database.isShutDown = false ∧
      store.contains path =
        (.ok (store.database.tables.hasPlaceholder path),
          ⟨⟨store.database.tables, store.database.pool.used⟩,
            store.memory.remember path (store.database.tables.hasPlaceholder path)⟩)) ∨
    (store.database.isShutDown = true ∧ store.contains path = (.error .shutDown, store)) := by
  unfold contains
  cases known : store.memory.remembered? path with
  | some present => exact .inl ⟨present, rfl, rfl⟩
  | none =>
      rcases Database.query_cases (fun tables => .ok (tables.hasPlaceholder path)) store.database with
        ⟨isOpen, answered⟩ | ⟨closed, refused⟩
      · exact .inr (.inl ⟨isOpen, by simp only [answered]⟩)
      · exact .inr (.inr ⟨closed, by simp only [refused]⟩)

def ask {Answer : Type} (statement : Tables → Except DatabaseError Answer)
    (store : PlaceholderStore) : Except DatabaseError Answer × PlaceholderStore :=
  ((store.database.query statement).1,
    { store with database := (store.database.query statement).2 })

theorem count_eq_ask (store : PlaceholderStore) :
    store.count = store.ask fun tables => .ok tables.placeholders.length := by
  rfl

theorem entries_eq_ask (store : PlaceholderStore) :
    store.entries = store.ask fun tables =>
      (tables.placeholders.mapM PlaceholderRow.toRecord).map PlaceholderEntries.ofRecords := by
  rfl

theorem filePaths_eq_ask (store : PlaceholderStore) :
    store.filePaths = store.ask fun tables =>
      .ok ((tables.placeholders.filter (·.pathType == PathType.file.code)).map (·.path)) := by
  rfl

theorem ask_cases {Answer : Type} (statement : Tables → Except DatabaseError Answer)
    (store : PlaceholderStore) :
    (store.database.isShutDown = false ∧
      store.ask statement =
        (statement store.database.tables,
          { store with database := ⟨store.database.tables, store.database.pool.used⟩ })) ∨
    (store.database.isShutDown = true ∧ store.ask statement = (.error .shutDown, store)) := by
  unfold ask
  rcases Database.query_cases statement store.database with ⟨isOpen, answered⟩ | ⟨closed, refused⟩
  · exact .inl ⟨isOpen, by rw [answered]⟩
  · exact .inr ⟨closed, by rw [refused]⟩

structure Represents (paths : Set String) (written : WrittenPlaceholders)
    (store : PlaceholderStore) : Prop where
  known : store.database.tables.version ≤ Enlistment.schemaVersion
  shutDown : store.database.isShutDown = !written.isOpen
  binds : store.database.tables.Binds paths written.bindings
  agrees : store.memory.Agrees written.bindings

structure AnswersAs (paths : Set String) (bindings : PlaceholderMap) (store : PlaceholderStore) :
    Prop where
  contains : ∀ path ∈ paths, (store.contains path).1 = .ok (decide (asciiLowercase path ∈ bindings))
  count : store.count.1 = .ok bindings.keys.card
  entries : ∃ found, store.entries.1 = .ok found ∧
    (found.files : Multiset PlaceholderRecord) =
      bindings.records.filter (fun record => record.isFolder = false) ∧
    (found.folders : Multiset PlaceholderRecord) =
      bindings.records.filter (fun record => record.isFolder = true)
  filePaths : ∃ found, store.filePaths.1 = .ok found ∧
    ∀ path, path ∈ found ↔ ∃ record ∈ bindings.records, record.isFolder = false ∧ record.path = path

namespace Represents

variable {paths : Set String} {written : WrittenPlaceholders} {store : PlaceholderStore}

theorem write (represents : store.Represents paths written) {path : String} {present : Bool}
    {change : Tables → Tables} {changed : PlaceholderMap}
    (version : (change store.database.tables).version = store.database.tables.version)
    (binds : (change store.database.tables).Binds paths changed)
    (own : present = decide (asciiLowercase path ∈ changed))
    (elsewhere : ∀ key, key ≠ asciiLowercase path → (key ∈ changed ↔ key ∈ written.bindings)) :
    (store.write path present change).2.Represents paths
      (if written.isOpen then { written with bindings := changed } else written) := by
  have state := represents.shutDown
  rcases write_cases path present change store with ⟨isOpen, updated⟩ | ⟨closed, refused⟩
  · rw [isOpen, eq_comm, Bool.not_eq_false'] at state
    rw [updated, if_pos state]
    refine ⟨version ▸ represents.known, ?_, binds, ?_⟩
    · simp [isOpen, state]
    · rw [own]
      exact represents.agrees.remember elsewhere
  · rw [closed, eq_comm, Bool.not_eq_true'] at state
    rw [refused, if_neg (by simp [state])]
    exact represents

theorem add (represents : store.Represents paths written) (apart : PlaceholderKey.TellsApart paths)
    {record : PlaceholderRecord} (named : record.path ∈ paths) :
    (store.add record).2.Represents paths (written.perform (.add record)) := by
  refine represents.write rfl (represents.binds.put apart named) ?_ ?_
  · exact (decide_eq_true (Finmap.mem_insert.mpr (.inl rfl))).symm
  · intro key other
    rw [Finmap.mem_insert, or_iff_right other]

theorem remove (represents : store.Represents paths written)
    (apart : PlaceholderKey.TellsApart paths) {path : String} (named : path ∈ paths) :
    (store.remove path).2.Represents paths (written.perform (.remove path)) := by
  refine represents.write rfl (represents.binds.delete apart named) ?_ ?_
  · exact (decide_eq_false Finmap.notMem_erase_self).symm
  · intro key other
    rw [Finmap.mem_erase, and_iff_right other]

theorem contains (represents : store.Represents paths written)
    (apart : PlaceholderKey.TellsApart paths) {path : String} (named : path ∈ paths) :
    (store.contains path).2.Represents paths written := by
  rcases contains_cases path store with ⟨_, _, same⟩ | ⟨isOpen, looked⟩ | ⟨_, refused⟩
  · rw [same]
    exact represents
  · rw [looked, represents.binds.has apart named]
    refine ⟨represents.known, ?_, represents.binds, ?_⟩
    · simpa using represents.shutDown
    · exact represents.agrees.remember fun _ _ => Iff.rfl
  · rw [refused]
    exact represents

theorem ask (represents : store.Represents paths written) {Answer : Type}
    (statement : Tables → Except DatabaseError Answer) :
    (store.ask statement).2.Represents paths written := by
  rcases ask_cases statement store with ⟨isOpen, answered⟩ | ⟨_, refused⟩
  · rw [answered]
    refine ⟨represents.known, ?_, represents.binds, represents.agrees⟩
    simpa using represents.shutDown
  · rw [refused]
    exact represents

theorem reopened (represents : store.Represents paths written) (sizes : PoolSizes) :
    Represents paths { written with isOpen := true }
      ⟨⟨{ store.database.tables with version := Enlistment.schemaVersion }, Pool.start sizes⟩,
        .empty⟩ :=
  ⟨Int.le_refl _, rfl, represents.binds.withVersion _, PlaceholderMemory.agrees_empty _⟩

theorem perform (represents : store.Represents paths written)
    (apart : PlaceholderKey.TellsApart paths) (action : PlaceholderAction)
    (named : ∀ path, action.path? = some path → path ∈ paths) :
    (store.perform action).2.Represents paths (written.perform action) := by
  -- Only writes change the map, and only writes and lookups change what is remembered.
  cases action with
  | add record => exact represents.add apart (named _ rfl)
  | remove path => exact represents.remove apart (named _ rfl)
  | contains path => exact represents.contains apart (named _ rfl)
  | count =>
      rw [PlaceholderStore.perform, count_eq_ask]
      exact represents.ask _
  | entries =>
      rw [PlaceholderStore.perform, entries_eq_ask]
      exact represents.ask _
  | filePaths =>
      rw [PlaceholderStore.perform, filePaths_eq_ask]
      exact represents.ask _
  | shutDown => exact ⟨represents.known, rfl, represents.binds, represents.agrees⟩
  | reopen sizes =>
      simp only [PlaceholderStore.perform, openOn_of_known sizes represents.known]
      exact represents.reopened sizes
  | forget kept =>
      exact ⟨represents.known, represents.shutDown, represents.binds, represents.agrees.forget kept⟩

theorem performAll (represents : store.Represents paths written)
    (apart : PlaceholderKey.TellsApart paths) (actions : List PlaceholderAction)
    (named : ∀ action ∈ actions, ∀ path, action.path? = some path → path ∈ paths) :
    (store.performAll actions).Represents paths (written.performAll actions) := by
  induction actions generalizing store written with
  | nil => exact represents
  | cons action rest ih =>
      have first := represents.perform apart action (named action List.mem_cons_self)
      exact ih first fun later member => named later (List.mem_cons_of_mem _ member)

/-- What is remembered agrees with the map, and what is not is looked up in rows that make it up. -/
theorem answersAs (represents : store.Represents paths written)
    (apart : PlaceholderKey.TellsApart paths) (isOpen : store.database.isShutDown = false) :
    store.AnswersAs paths written.bindings := by
  have asked : ∀ {Answer : Type} (statement : Tables → Except DatabaseError Answer),
      (store.ask statement).1 = statement store.database.tables := by
    intro Answer statement
    rcases ask_cases statement store with ⟨_, answered⟩ | ⟨closed, _⟩
    · rw [answered]
    · rw [isOpen] at closed
      contradiction
  obtain ⟨records, read⟩ := PlaceholderRow.exists_records represents.binds.decodes
  have listed := represents.binds.records_eq read
  refine ⟨?_, ?_, ?_, ?_⟩
  · intro path named
    rcases contains_cases path store with ⟨present, known, same⟩ | ⟨_, looked⟩ | ⟨closed, _⟩
    · rw [same, represents.agrees _ present known]
    · rw [looked, represents.binds.has apart named]
    · rw [isOpen] at closed
      contradiction
  · have sizes := congrArg List.length read
    rw [List.length_map, List.length_map] at sizes
    rw [count_eq_ask, asked, sizes, ← PlaceholderMap.card_records, ← listed, Multiset.coe_card]
  · refine ⟨.ofRecords records, ?_, ?_, ?_⟩
    · rw [entries_eq_ask, asked, mapM_eq_ok_iff.mpr read]
      rfl
    · rw [← listed, Multiset.filter_coe]
      simp [PlaceholderEntries.ofRecords]
    · rw [← listed, Multiset.filter_coe]
      simp [PlaceholderEntries.ofRecords]
  · rw [filePaths_eq_ask, asked]
    refine ⟨_, rfl, ?_⟩
    intro path
    rw [← listed]
    simp only [List.mem_map, List.mem_filter, beq_iff_eq, Multiset.mem_coe]
    constructor
    · rintro ⟨row, ⟨stored, file⟩, rfl⟩
      obtain ⟨record, found⟩ := represents.binds.decodes row stored
      exact ⟨record, (PlaceholderRow.mem_records read record).mpr ⟨row, stored, found⟩,
        (PlaceholderRow.isFile_iff found).mp file, (PlaceholderRow.columns_of_toRecord found).1⟩
    · rintro ⟨record, member, file, rfl⟩
      obtain ⟨row, stored, found⟩ := (PlaceholderRow.mem_records read record).mp member
      exact ⟨row, ⟨stored, (PlaceholderRow.isFile_iff found).mpr file⟩,
        (PlaceholderRow.columns_of_toRecord found).1.symm⟩

end Represents

theorem represents_openOn {sizes : PoolSizes} {tables : Tables} {store : PlaceholderStore}
    {paths : Set String} {records : List PlaceholderRecord} (opened : openOn sizes tables = .ok store)
    (decoded : tables.placeholders.mapM PlaceholderRow.toRecord = .ok records)
    (ordered : tables.placeholders.Pairwise fun earlier later => earlier.key < later.key)
    (inside : ∀ row ∈ tables.placeholders, row.path ∈ paths) :
    store.Represents paths ⟨.ofRecords records, true⟩ := by
  cases database : Database.openOn sizes tables with
  | error error => simp [openOn, database, bind, Except.bind] at opened
  | ok found =>
      rw [openOn_of_known sizes (Database.known_of_openOn database)] at opened
      obtain rfl := Except.ok.inj opened
      have binds := Tables.Binds.ofRecords ordered inside (mapM_eq_ok_iff.mp decoded)
      exact ⟨Int.le_refl _, rfl, binds.withVersion _, PlaceholderMemory.agrees_empty _⟩

theorem tables_perform_of_error {action : PlaceholderAction} {store : PlaceholderStore}
    {error : DatabaseError} (failed : (store.perform action).1 = .error error) :
    (store.perform action).2.database.tables = store.database.tables := by
  have written : ∀ {path present change}, (store.write path present change).1 = .error error →
      (store.write path present change).2.database.tables = store.database.tables := by
    intro path present change failed
    rcases write_cases path present change store with ⟨_, updated⟩ | ⟨_, refused⟩
    · rw [updated] at failed
      contradiction
    · rw [refused]
  have asked : ∀ {Answer : Type} (statement : Tables → Except DatabaseError Answer),
      (store.ask statement).2.database.tables = store.database.tables := by
    intro Answer statement
    rcases ask_cases statement store with ⟨_, answered⟩ | ⟨_, refused⟩
    · rw [answered]
    · rw [refused]
  cases action with
  | add record => exact written failed
  | remove path => exact written failed
  | contains path =>
      rcases contains_cases path store with ⟨_, _, same⟩ | ⟨_, looked⟩ | ⟨_, refused⟩
      · rw [PlaceholderStore.perform, same]
      · rw [PlaceholderStore.perform, looked]
      · rw [PlaceholderStore.perform, refused]
  | count => rw [PlaceholderStore.perform, count_eq_ask, asked]
  | entries => rw [PlaceholderStore.perform, entries_eq_ask, asked]
  | filePaths => rw [PlaceholderStore.perform, filePaths_eq_ask, asked]
  | shutDown => contradiction
  | forget kept => contradiction
  | reopen sizes =>
      cases again : openOn sizes store.database.tables with
      | ok found => simp [PlaceholderStore.perform, again] at failed
      | error _ => simp [PlaceholderStore.perform, again]

/-- Whatever is done with the placeholders of tables that make sense, while the store is open it
answers as a map from paths in lowercase to what was written last, and what fails leaves the tables,
and so whoever opens them next, as they were. The paths are such as the table tells apart, which it
does unless one holds a zero character. -/
theorem answers_as_folded_map {sizes : PoolSizes} {tables : Tables} {store : PlaceholderStore}
    {records : List PlaceholderRecord} (opened : openOn sizes tables = .ok store)
    (decoded : tables.placeholders.mapM PlaceholderRow.toRecord = .ok records)
    (ordered : tables.placeholders.Pairwise fun earlier later => earlier.key < later.key)
    {paths : Set String} (apart : PlaceholderKey.TellsApart paths)
    (inside : ∀ row ∈ tables.placeholders, row.path ∈ paths) {actions : List PlaceholderAction}
    (named : ∀ action ∈ actions, ∀ path, action.path? = some path → path ∈ paths) :
    (((store.performAll actions).database.isShutDown = false ↔
        (WrittenPlaceholders.performAll actions ⟨.ofRecords records, true⟩).isOpen = true) ∧
      ((store.performAll actions).database.isShutDown = false →
        (store.performAll actions).AnswersAs paths
          (WrittenPlaceholders.performAll actions ⟨.ofRecords records, true⟩).bindings)) ∧
    ∀ action error, ((store.performAll actions).perform action).1 = .error error →
      ((store.performAll actions).perform action).2.database.tables =
          (store.performAll actions).database.tables ∧
        ∀ sizes, openOn sizes ((store.performAll actions).perform action).2.database.tables =
          openOn sizes (store.performAll actions).database.tables := by
  have represents := (represents_openOn opened decoded ordered inside).performAll apart actions named
  refine ⟨⟨?_, represents.answersAs apart⟩, ?_⟩
  · rw [represents.shutDown, Bool.not_eq_false']
  · intro action error failed
    have kept := tables_perform_of_error failed
    exact ⟨kept, fun sizes => congrArg (openOn sizes) kept⟩

def sourceFolder : Tables :=
  { Tables.empty with placeholders := [⟨"Src", 1, none⟩, ⟨"src/Lib", 1, none⟩] }

def sourceFolderActions : List PlaceholderAction :=
  [.contains "docs", .add ⟨"SRC", .expandedFolder⟩, .remove "SRC/LIB", .shutDown,
    .add ⟨"docs", .partialFolder⟩, .reopen ⟨1, 1⟩, .forget fun _ => false]

theorem answers_after_refused_write :
    ∃ store, openOn ⟨1, 1⟩ sourceFolder = .ok store ∧
      (store.performAll sourceFolderActions).count.1 = .ok 1 ∧
      ((store.performAll sourceFolderActions).contains "src").1 = .ok true ∧
      ((store.performAll sourceFolderActions).contains "docs").1 = .ok false := by
  have opened := openOn_of_known ⟨1, 1⟩ (show sourceFolder.version ≤ schemaVersion by decide)
  have decoded : sourceFolder.placeholders.mapM PlaceholderRow.toRecord =
      .ok [⟨"Src", .partialFolder⟩, ⟨"src/Lib", .partialFolder⟩] := by
    rfl
  have ordered : sourceFolder.placeholders.Pairwise fun earlier later => earlier.key < later.key := by
    decide +kernel
  have apart : PlaceholderKey.TellsApart {path | '\x00' ∉ path.toList} :=
    PlaceholderKey.tellsApart_of_zeroFree fun _ zeroFree => zeroFree
  have inside : ∀ row ∈ sourceFolder.placeholders, '\x00' ∉ row.path.toList := by
    decide +kernel
  have named : ∀ action ∈ sourceFolderActions, ∀ path, action.path? = some path →
      '\x00' ∉ path.toList := by
    simp [sourceFolderActions, PlaceholderAction.path?]
  obtain ⟨⟨_, answers⟩, _⟩ := answers_as_folded_map opened decoded ordered apart inside named
  have answered := answers rfl
  have source : '\x00' ∉ "src".toList := by decide
  have documents : '\x00' ∉ "docs".toList := by decide
  refine ⟨_, opened, answered.count.trans ?_, (answered.contains "src" source).trans ?_,
    (answered.contains "docs" documents).trans ?_⟩
  · decide +kernel
  · decide +kernel
  · decide +kernel

/-- Of a path only the text up to a zero character, and the length, is looked at in the table; so a
path that was never written is found there, though the map has it not. -/
theorem contains_path_that_agrees_up_to_zero :
    ∃ store, openOn ⟨1, 1⟩ .empty = .ok store ∧
      ((store.performAll [.add ⟨"a\x00b", .partialFolder⟩, .reopen ⟨1, 1⟩]).contains
        "a\x00c").1 = .ok true ∧
      asciiLowercase "a\x00c" ∉ (WrittenPlaceholders.performAll
        [.add ⟨"a\x00b", .partialFolder⟩, .reopen ⟨1, 1⟩] ⟨.ofRecords [], true⟩).bindings := by
  refine ⟨_, openOn_of_known _ (by decide), ?_, ?_⟩
  · decide +kernel
  · decide +kernel

end PlaceholderStore

end Enlistment
