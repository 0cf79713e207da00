import Enlistment.Proofs.Mount.Reached
import Enlistment.Proofs.Path.DotGit
import Enlistment.Proofs.Task.Coverage

/-!
Where what is recorded comes from. Whatever a mount records, in memory, in its tables or in its log,
was named by an event that was not ignored, or is the attributes file. An event inside `.git` is
ignored by the first characters of its path, so what is recorded from inside `.git` was named by a
path that starts with a separator.
-/

namespace Enlistment

open Enlistment.Path

def Task.paths : Task → List String
  | .change changed => changed.paths
  | .placeholderCreated record => [record.path]

def Event.paths : Event → List String
  | changed change => change.paths
  | placeholderCreated record _ => [record.path]

namespace Change

variable {seen : Change} {path : String}

theorem paths_of_renameOutside {isFolder : Bool} {oldPath newPath : String}
    (renamed : renameOutside isFolder oldPath newPath = some seen) (named : path ∈ seen.paths) :
    path ∈ [oldPath, newPath] ∧ isInsideDotGit path = false := by
  unfold renameOutside at renamed
  split at renamed
  · rename_i oldOutside newOutside
    have paths : seen.paths = [oldPath, newPath] := by
      rw [← Option.some.inj renamed]
      cases isFolder <;> rfl
    rw [paths] at named
    refine ⟨named, ?_⟩
    rcases List.mem_pair.mp named with rfl | rfl
    · exact oldOutside
    · exact newOutside
  · rename_i oldOutside newInside
    have paths : seen.paths = [oldPath] := by
      rw [← Option.some.inj renamed]
      cases isFolder <;> rfl
    rw [paths, List.mem_singleton] at named
    exact ⟨by simp [named], named ▸ oldOutside⟩
  · rename_i oldInside newOutside
    have paths : seen.paths = [newPath] := by
      rw [← Option.some.inj renamed]
      cases isFolder <;> rfl
    rw [paths, List.mem_singleton] at named
    exact ⟨by simp [named], named ▸ newOutside⟩
  · exact absurd renamed (by simp)

theorem touchesDotGit_iff (change : Change) :
    (Task.change change).touchesDotGit = true ↔ ∃ path ∈ change.paths, isInsideDotGit path = true := by
  cases moved : change.oldPath? with
  | none => simp [Task.touchesDotGit, Task.path, Task.oldPath?, paths, moved]
  | some oldPath => simp [Task.touchesDotGit, Task.path, Task.oldPath?, paths, moved, or_comm]

/-- What is left of a rename lies outside `.git`, so the second look lets it pass. -/
theorem filter_renameOutside (isFolder : Bool) (oldPath newPath : String) :
    (renameOutside isFolder oldPath newPath).filter
        (fun change => !(Task.change change).touchesDotGit) =
      renameOutside isFolder oldPath newPath := by
  cases renamed : renameOutside isFolder oldPath newPath with
  | none => rfl
  | some seen =>
      refine Option.filter_some_pos ?_
      rw [Bool.not_eq_true', Bool.eq_false_iff, ne_eq, touchesDotGit_iff]
      rintro ⟨path, named, inside⟩
      exact absurd ((paths_of_renameOutside renamed named).2.symm.trans inside) nofun

@[simp]
theorem outside_fileRenamed (oldPath newPath : String) :
    (fileRenamed oldPath newPath).outside = renameOutside false oldPath newPath :=
  filter_renameOutside false oldPath newPath

@[simp]
theorem outside_folderRenamed (oldPath newPath : String) :
    (folderRenamed oldPath newPath).outside = renameOutside true oldPath newPath :=
  filter_renameOutside true oldPath newPath

theorem outside_of_unmoved {change : Change} (unmoved : change.oldPath? = none) :
    change.outside = if isInsideDotGit change.path then none else some change := by
  have once : change.outside =
      (some change).filter fun change => !(Task.change change).touchesDotGit := by
    cases change <;> first | rfl | contradiction
  have only : (Task.change change).touchesDotGit = isInsideDotGit change.path := by
    simp [Task.touchesDotGit, Task.path, Task.oldPath?, unmoved]
  rw [once, Option.filter_some, only]
  cases isInsideDotGit change.path <;> rfl

theorem paths_of_outside {change : Change} (outside : change.outside = some seen)
    (named : path ∈ seen.paths) : path ∈ change.paths ∧ isInsideDotGit path = false := by
  cases moved : change.oldPath? with
  | none =>
      rw [outside_of_unmoved moved] at outside
      split at outside
      · exact absurd outside nofun
      · rename_i notInside
        obtain rfl := Option.some.inj outside
        refine ⟨named, ?_⟩
        rw [paths, moved, Option.toList_none, List.nil_append, List.mem_singleton] at named
        simpa [named] using notInside
  | some oldPath =>
      cases change with
      | fileRenamed oldPath newPath =>
          rw [outside_fileRenamed] at outside
          exact paths_of_renameOutside outside named
      | folderRenamed oldPath newPath =>
          rw [outside_folderRenamed] at outside
          exact paths_of_renameOutside outside named
      | _ => contradiction

end Change

/-- The task of an event names no path but those of the event, and none that is told to lie inside
`.git`. -/
theorem Event.paths_of_task {event : Event} {task : Task} (queued : event.task? = some task)
    {path : String} (named : path ∈ task.paths) :
    path ∈ event.paths ∧ isInsideDotGit path = false := by
  cases event with
  | changed change =>
      obtain ⟨seen, outside, rfl⟩ := Option.map_eq_some_iff.mp queued
      exact Change.paths_of_outside outside named
  | placeholderCreated record process =>
      simp only [task?] at queued
      split at queued
      · exact absurd queued (by simp)
      · rename_i notInside
        obtain rfl := Option.some.inj queued
        refine ⟨named, ?_⟩
        rw [List.mem_singleton.mp named]
        simpa using notInside

def StoreStep.paths : StoreStep → List String
  | addModifiedPath path _ => [path]
  | removePlaceholder path => [path]
  | addPlaceholder record => [record.path]

theorem Task.paths_of_step {task : Task} {step : StoreStep} (member : step ∈ task.steps) :
    step.paths ⊆ task.paths := by
  cases task with
  | change changed =>
      cases changed <;>
        simp only [steps, Change.steps, List.mem_cons, List.not_mem_nil, or_false] at member <;>
        rcases member with rfl | rfl | rfl <;>
        simp [StoreStep.paths, paths, Change.paths, Change.oldPath?, Change.path]
  | placeholderCreated record =>
      rw [List.mem_singleton.mp member]
      exact List.Subset.refl _

section Sources

variable {Source : String → Prop}

variable (Source) in
def IsEntryOf (entry : String) : Prop :=
  entry = gitAttributes ∨ ∃ path isFolder, Source path ∧ entry = normalizeEntry path isFolder

variable (Source) in
structure Tables.Sourced (tables : Tables) : Prop where
  modifiedPaths : ∀ entry ∈ tables.modifiedPaths, IsEntryOf Source entry
  placeholders : ∀ row ∈ tables.placeholders, Source row.path
  tasks : ∀ row ∈ tables.tasks, ∀ logged, LoggedTask.ofRow row = .ok logged →
    ∀ path ∈ logged.task.paths, Source path

variable (Source) in
structure Stores.Sourced (stores : Stores) : Prop where
  tables : stores.database.tables.Sourced Source
  memory : ∀ entry ∈ stores.paths.all, IsEntryOf Source entry

variable (Source) in
structure Pipeline.Sourced (pipeline : Pipeline) : Prop where
  stores : pipeline.stores.Sourced Source
  queued : ∀ logged ∈ pipeline.queue.channel, ∀ path ∈ logged.task.paths, Source path

namespace Tables.Sourced

variable {tables : Tables}

theorem insertModifiedPath (sourced : tables.Sourced Source) {entry : String}
    (known : IsEntryOf Source entry) : (tables.insertModifiedPath entry).Sourced Source := by
  refine ⟨?_, sourced.placeholders, sourced.tasks⟩
  intro other member
  rcases (Rows.mem_put_id _ _ _).mp member with rfl | old
  · exact known
  · exact sourced.modifiedPaths other old

theorem putPlaceholder (sourced : tables.Sourced Source) {record : PlaceholderRecord}
    (known : Source record.path) : (tables.putPlaceholder (.ofRecord record)).Sourced Source := by
  refine ⟨sourced.modifiedPaths, ?_, sourced.tasks⟩
  intro row member
  rcases List.mem_cons.mp (Rows.put_subset _ _ member) with rfl | old
  · exact known
  · exact sourced.placeholders row old

theorem deletePlaceholder (sourced : tables.Sourced Source) (path : String) :
    (tables.deletePlaceholder path).Sourced Source := by
  refine ⟨sourced.modifiedPaths, ?_, sourced.tasks⟩
  exact fun row member => sourced.placeholders row (List.mem_filter.mp member).1

theorem deleteTask (sourced : tables.Sourced Source) (id : Int) :
    (tables.deleteTask id).Sourced Source := by
  refine ⟨sourced.modifiedPaths, sourced.placeholders, ?_⟩
  exact fun row member => sourced.tasks row (List.mem_filter.mp member).1

theorem appendTask (sourced : tables.Sourced Source) {task : Task}
    (known : ∀ path ∈ task.paths, Source path) {id : Int} {appended : Tables}
    (done : tables.appendTask (fun id => LoggedTask.toRow ⟨id, task⟩) = .ok (id, appended)) :
    appended.Sourced Source := by
  unfold Tables.appendTask at done
  split at done
  · obtain ⟨rfl, rfl⟩ := Prod.mk.inj (Except.ok.inj done)
    refine ⟨sourced.modifiedPaths, sourced.placeholders, ?_⟩
    intro row member logged read
    rcases List.mem_append.mp member with old | new
    · exact sourced.tasks row old logged read
    · rw [List.mem_singleton.mp new, LoggedTask.ofRow_toRow] at read
      obtain rfl := Except.ok.inj read
      exact known
  · exact absurd done (by simp)

theorem seed (sourced : tables.Sourced Source) :
    (ModifiedPathsStore.seed tables).2.Sourced Source := by
  unfold ModifiedPathsStore.seed
  split
  · exact sourced.insertModifiedPath (.inl rfl)
  · exact sourced

end Tables.Sourced

namespace Stores.Sourced

variable {stores : Stores}

theorem addEntry (sourced : stores.Sourced Source) {entry : String}
    (known : IsEntryOf Source entry) :
    (stores.setModifiedPaths (stores.modifiedPaths.addEntry entry).2).Sourced Source := by
  rcases stores.modifiedPaths.addEntry_cases entry with
    ⟨_, same⟩ | ⟨_, _, added⟩ | ⟨_, _, same⟩
  · rw [same]
    exact sourced
  · rw [added]
    refine ⟨sourced.tables.insertModifiedPath known, ?_⟩
    intro other member
    obtain ⟨stored, listed, rfl⟩ := List.mem_map.mp member
    rcases ModifiedPaths.mem_put listed with old | new
    · exact sourced.memory _ (List.mem_map.mpr ⟨stored, old, rfl⟩)
    · rw [new]
      exact known
  · rw [same]
    exact sourced

theorem write (sourced : stores.Sourced Source) {path : String} {present : Bool}
    {change : Tables → Tables} (changed : (change stores.database.tables).Sourced Source) :
    (stores.setPlaceholders (stores.placeholders.write path present change).2).Sourced Source := by
  unfold PlaceholderStore.write
  rcases Database.update_cases change stores.placeholders.database with
    ⟨_, updated⟩ | ⟨_, refused⟩
  · rw [updated]
    exact ⟨changed, sourced.memory⟩
  · rw [refused]
    exact sourced

theorem applyStep (sourced : stores.Sourced Source) {step : StoreStep}
    (known : ∀ path ∈ step.paths, Source path) : (stores.applyStep step).2.Sourced Source := by
  cases step with
  | addModifiedPath path isFolder =>
      rw [applyStep_addModifiedPath]
      exact sourced.addEntry (.inr ⟨path, isFolder, known path List.mem_cons_self, rfl⟩)
  | removePlaceholder path => exact sourced.write (sourced.tables.deletePlaceholder path)
  | addPlaceholder record =>
      exact sourced.write (sourced.tables.putPlaceholder (known record.path List.mem_cons_self))

theorem applySteps (sourced : stores.Sourced Source) {task : Task}
    (known : ∀ path ∈ task.paths, Source path) :
    (stores.applySteps task.steps).2.Sourced Source := by
  have keeps : ∀ step ∈ task.steps, ∀ stores : Stores, stores.Sourced Source →
      (stores.applyStep step).2.Sourced Source := fun step member _ kept =>
    kept.applyStep fun path named => known path (Task.paths_of_step member named)
  exact applySteps_keeps keeps sourced

theorem run {Answer : Type} (sourced : stores.Sourced Source)
    {statement : Tables → Except DatabaseError (Answer × Tables)}
    (keeps : ∀ answer tables, statement stores.database.tables = .ok (answer, tables) →
      tables.Sourced Source) :
    Stores.Sourced Source { stores with database := (stores.database.run statement).2 } := by
  refine ⟨?_, sourced.memory⟩
  cases state : stores.database.isShutDown with
  | true =>
      rw [Database.run_of_shutDown state]
      exact sourced.tables
  | false =>
      rw [Database.run_of_open state]
      split
      · exact sourced.tables
      · rename_i answer tables done
        exact keeps answer tables done

end Stores.Sourced

namespace Pipeline.Sourced

variable {pipeline : Pipeline}

theorem process (sourced : pipeline.Sourced Source) {logged : LoggedTask}
    (known : ∀ path ∈ logged.task.paths, Source path) :
    (pipeline.process logged).Sourced Source := by
  have applied := sourced.stores.applySteps known
  rw [Schedule.process_eq]
  split
  · rename_i stores done
    rw [done] at applied
    refine ⟨applied.run ?_, sourced.queued⟩
    intro answer tables deleted
    obtain ⟨_, rfl⟩ := Prod.mk.inj (Except.ok.inj deleted)
    exact applied.tables.deleteTask logged.id
  · rename_i error stores failed
    rw [failed] at applied
    exact ⟨applied, sourced.queued⟩

theorem enqueue (sourced : pipeline.Sourced Source) {task : Task}
    (known : ∀ path ∈ task.paths, Source path) : (pipeline.enqueue task).2.Sourced Source := by
  have logged : (pipeline.enqueue task).2.stores.Sourced Source := by
    rw [stores_enqueue]
    refine sourced.stores.run ?_
    intro id tables appended
    cases outcome : pipeline.stores.database.tables.appendTask
        (fun id => LoggedTask.toRow ⟨id, task⟩) with
    | error fault => simp [outcome, Except.mapError] at appended
    | ok found =>
        rw [outcome] at appended
        obtain rfl := Except.ok.inj appended
        exact sourced.stores.tables.appendTask known outcome
  refine ⟨logged, ?_⟩
  rcases append : TaskLog.append task pipeline.stores.database with ⟨error | id, after⟩
  · rw [Schedule.enqueue_of_refusal append]
    exact sourced.queued
  · rw [Schedule.enqueue_of_append append]
    intro other member
    unfold TaskQueue.send at member
    split at member
    · rcases List.mem_append.mp member with old | new
      · exact sourced.queued other old
      · rw [List.mem_singleton.mp new]
        exact known
    · exact sourced.queued other member

theorem receiveEvent (sourced : pipeline.Sourced Source) {event : Event}
    (known : ∀ path ∈ event.paths, isInsideDotGit path = false → Source path) :
    (pipeline.receiveEvent event).2.Sourced Source := by
  unfold Pipeline.receiveEvent
  split
  · exact sourced
  · rename_i task queued
    have counted : ∀ created, Pipeline.Sourced Source { pipeline with created } :=
      fun _ => ⟨sourced.stores, sourced.queued⟩
    refine (counted _).enqueue fun path named => ?_
    obtain ⟨listed, outside⟩ := Event.paths_of_task queued named
    exact known path listed outside

theorem drain (sourced : pipeline.Sourced Source) : pipeline.drain.Sourced Source := by
  refine List.foldlRecOn pipeline.queue.channel _ (motive := Pipeline.Sourced Source)
    ⟨sourced.stores, by simp⟩ ?_
  intro working kept logged member
  exact kept.process (sourced.queued logged member)

theorem start {database after : Database} (sourced : database.tables.Sourced Source)
    (started : Pipeline.start database = (.ok pipeline, after)) : pipeline.Sourced Source := by
  obtain ⟨logged, logs⟩ := logs_of_start started
  rw [start_of_logs (isOpen_of_start started) (readable_of_start started) logs] at started
  obtain rfl := Except.ok.inj (congrArg Prod.fst started)
  refine ⟨⟨sourced.seed, ?_⟩, ?_⟩
  · intro entry member
    obtain ⟨stored, listed, rfl⟩ := List.mem_map.mp member
    have read := ModifiedPaths.mem_of_mem_ofEntries listed
    rw [← ModifiedPathsStore.modifiedPaths_seed] at read
    exact sourced.seed.modifiedPaths _ read
  · intro task member
    have listed : Except.ok task ∈ database.tables.tasks.map LoggedTask.ofRow := by
      rw [logs]
      exact List.mem_map.mpr ⟨task, member, rfl⟩
    obtain ⟨row, stored, read⟩ := List.mem_map.mp listed
    exact sourced.tasks row stored task read

end Pipeline.Sourced

end Sources

inductive PipelineAction where
  | receive (event : Event)
  | work
  | drain
  | restart (sizes : PoolSizes)

namespace Pipeline

def startOn (sizes : PoolSizes) (tables : Tables) : Except (Failure MountError) Pipeline :=
  match Database.openOn sizes tables with
  | .ok database => (start database).1
  | .error error => .error (.error (.database error))

def perform (pipeline : Pipeline) : PipelineAction → Pipeline
  | .receive event => (pipeline.receiveEvent event).2
  | .work =>
      match pipeline.queue.receive with
      | (some logged, queue) => { pipeline with queue }.process logged
      | (none, _) => pipeline
  | .drain => pipeline.drain
  | .restart sizes =>
      match startOn sizes pipeline.stores.database.tables with
      | .ok again => again
      | .error _ => pipeline

def performAll (actions : List PipelineAction) (pipeline : Pipeline) : Pipeline :=
  actions.foldl perform pipeline

def takenBy (pipeline : Pipeline) : PipelineAction → List LoggedTask
  | .work => pipeline.queue.receive.1.toList
  | .drain => pipeline.queue.channel
  | _ => []

def takenUp (pipeline : Pipeline) : List PipelineAction → List LoggedTask
  | [] => []
  | action :: rest => pipeline.takenBy action ++ (pipeline.perform action).takenUp rest

end Pipeline

def PipelineAction.paths : PipelineAction → List String
  | receive event => event.paths
  | _ => []

namespace Pipeline

variable {Source : String → Prop} {pipeline : Pipeline}

theorem sourced_of_startOn {sizes : PoolSizes} {tables : Tables} (sourced : tables.Sourced Source)
    (started : startOn sizes tables = .ok pipeline) : pipeline.Sourced Source := by
  unfold startOn at started
  split at started
  · rename_i database opened
    have same : database.tables.Sourced Source := by
      rw [Database.tables_of_openOn opened]
      exact ⟨sourced.modifiedPaths, sourced.placeholders, sourced.tasks⟩
    exact Sourced.start same (Prod.ext started rfl)
  · exact absurd started (by simp)

theorem Sourced.perform (sourced : pipeline.Sourced Source) {action : PipelineAction}
    (known : ∀ path ∈ action.paths, isInsideDotGit path = false → Source path) :
    (pipeline.perform action).Sourced Source := by
  cases action with
  | receive event => exact sourced.receiveEvent known
  | work =>
      simp only [Pipeline.perform, TaskQueue.receive]
      have queued := sourced.queued
      cases waiting : pipeline.queue.channel with
      | nil => exact sourced
      | cons logged rest =>
          rw [waiting] at queued
          have taken : Pipeline.Sourced Source
              { pipeline with queue := { pipeline.queue with channel := rest } } :=
            ⟨sourced.stores, fun other member => queued other (List.mem_cons_of_mem _ member)⟩
          exact taken.process (queued logged List.mem_cons_self)
  | drain => exact sourced.drain
  | restart sizes =>
      simp only [Pipeline.perform]
      split
      · rename_i again started
        exact sourced_of_startOn sourced.stores.tables started
      · exact sourced

theorem Sourced.performAll (sourced : pipeline.Sourced Source) {actions : List PipelineAction}
    (known : ∀ path ∈ actions.flatMap PipelineAction.paths,
      isInsideDotGit path = false → Source path) :
    (pipeline.performAll actions).Sourced Source := by
  refine List.foldlRecOn actions _ (motive := Pipeline.Sourced Source) sourced ?_
  intro working kept action member
  refine kept.perform fun path named outside => known path ?_ outside
  exact List.mem_flatMap.mpr ⟨action, member, named⟩

theorem startOn_of_logs (sizes : PoolSizes) {tables : Tables}
    (known : tables.version ≤ schemaVersion) (readable : tables.unreadablePaths = [])
    {logged : List LoggedTask} (logs : tables.Logs logged) :
    startOn sizes tables =
      .ok (restarted ⟨{ tables with version := schemaVersion }, .start sizes⟩ logged) := by
  have opened := Database.openOn_of_known sizes known
  have started := start_of_logs (Database.isOpen_of_openOn opened) readable
    (show Tables.Logs { tables with version := schemaVersion } logged from logs)
  simp only [startOn, opened, started]

theorem restarted_of_startOn {sizes : PoolSizes} {tables : Tables}
    (started : startOn sizes tables = .ok pipeline) :
    tables.version ≤ schemaVersion ∧ tables.unreadablePaths = [] ∧ ∃ logged, tables.Logs logged ∧
      pipeline = restarted ⟨{ tables with version := schemaVersion }, .start sizes⟩ logged := by
  cases opened : Database.openOn sizes tables with
  | error error =>
      simp only [startOn, opened] at started
      contradiction
  | ok database =>
      have known := Database.known_of_openOn opened
      have begun := started
      simp only [startOn, opened] at begun
      have begun : start database = (.ok pipeline, (start database).2) := Prod.ext begun rfl
      obtain ⟨logged, logs⟩ := logs_of_start begun
      have readable := readable_of_start begun
      rw [Database.tables_of_openOn opened] at logs readable
      have logs : tables.Logs logged := logs
      exact ⟨known, readable, logged, logs,
        (Except.ok.inj ((startOn_of_logs sizes known readable logs).symm.trans started)).symm⟩

def fresh (sizes : PoolSizes) : Pipeline :=
  restarted ⟨{ Tables.empty with version := schemaVersion }, .start sizes⟩ []

theorem startOn_empty (sizes : PoolSizes) : startOn sizes .empty = .ok (fresh sizes) :=
  startOn_of_logs sizes (by decide) rfl rfl

def NamedOutside (actions : List PipelineAction) (path : String) : Prop :=
  path ∈ actions.flatMap PipelineAction.paths ∧ isInsideDotGit path = false

theorem sourced_fresh (sizes : PoolSizes) (actions : List PipelineAction) :
    ((fresh sizes).performAll actions).Sourced (NamedOutside actions) := by
  have started : (fresh sizes).Sourced (NamedOutside actions) := by
    refine sourced_of_startOn ?_ (startOn_empty sizes)
    exact ⟨by simp [Tables.empty], by simp [Tables.empty], by simp [Tables.empty]⟩
  exact started.performAll fun path named outside => ⟨named, outside⟩

/-- An event named a path inside `.git` behind a separator. -/
def Escaped (actions : List PipelineAction) (path : String) : Prop :=
  path ∈ actions.flatMap PipelineAction.paths ∧ StartsWithSeparator path ∧ liesInDotGit path = true

theorem NamedOutside.escaped {actions : List PipelineAction} {path : String}
    (named : NamedOutside actions path) (inside : liesInDotGit path = true) :
    Escaped actions path := by
  refine ⟨named.1, Classical.not_not.mp fun unseparated => ?_, inside⟩
  have ignored := isInsideDotGit_of_liesInDotGit unseparated inside
  rw [named.2] at ignored
  exact absurd ignored (by simp)

theorem escaped_of_isEntryOf {actions : List PipelineAction} {entry : String}
    (known : IsEntryOf (NamedOutside actions) entry) (inside : liesInDotGit entry = true) :
    ∃ path isFolder, Escaped actions path ∧ entry = normalizeEntry path isFolder := by
  rcases known with rfl | ⟨path, isFolder, named, rfl⟩
  · exact absurd inside (by decide +kernel)
  · rw [liesInDotGit_normalizeEntry] at inside
    exact ⟨path, isFolder, named.escaped inside, rfl⟩

/-- From a new store on, whatever events come and whatever is done about them, every modified path
and every placeholder inside `.git` was named by an event, and by a path that starts with a
separator. Where no event names one so, nothing inside `.git` is recorded. -/
theorem recorded_inside_dotGit (sizes : PoolSizes) (actions : List PipelineAction) :
    ∃ pipeline, startOn sizes .empty = .ok pipeline ∧
      (∀ entry, entry ∈ (pipeline.performAll actions).stores.paths.all ∨
          entry ∈ (pipeline.performAll actions).stores.database.tables.modifiedPaths →
        liesInDotGit entry = true →
        ∃ path isFolder, Escaped actions path ∧ entry = normalizeEntry path isFolder) ∧
      ∀ row ∈ (pipeline.performAll actions).stores.database.tables.placeholders,
        liesInDotGit row.path = true → Escaped actions row.path := by
  have sourced := sourced_fresh sizes actions
  refine ⟨fresh sizes, startOn_empty sizes, ?_, ?_⟩
  · rintro entry (inMemory | inTable) inside
    · exact escaped_of_isEntryOf (sourced.stores.memory entry inMemory) inside
    · exact escaped_of_isEntryOf (sourced.stores.tables.modifiedPaths entry inTable) inside
  · intro row member inside
    exact (sourced.stores.tables.placeholders row member).escaped inside

/-- A separator in front hides `.git` from what tells the events to ignore. -/
theorem dotGit_recorded_behind_separator :
    ∃ pipeline, startOn ⟨1, 1⟩ .empty = .ok pipeline ∧
      ∃ entry row, entry ∈ (pipeline.performAll
          [.receive (.changed (.fileCreated "/.git/config")), .drain]).stores.paths.all ∧
        liesInDotGit entry = true ∧
        row ∈ (pipeline.performAll
          [.receive (.placeholderCreated ⟨"//.GIT/HEAD", .partialFolder⟩ "git"),
            .drain]).stores.database.tables.placeholders ∧
        liesInDotGit row.path = true := by
  refine ⟨fresh ⟨1, 1⟩, startOn_empty ⟨1, 1⟩, ".git/config", ⟨"//.GIT/HEAD", 1, none⟩, ?_⟩
  decide +kernel

end Pipeline

end Enlistment
