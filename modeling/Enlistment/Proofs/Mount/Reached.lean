import Enlistment.Proofs.ModifiedPaths.Empty
import Enlistment.Proofs.Mount.Restart
import Enlistment.Proofs.Mount.Schedule

/-!
The pipelines that a start leads to by events and by work, with the tasks that the worker took up on
the way. Whatever the order, the store stays open and the set of modified paths well keyed, and the
empty entry is in the set only if it was read from the table or a task named a file by a blank path.
-/

namespace Enlistment

open Enlistment.Path

def Task.filePaths : Task → List String
  | .change changed => if changed.isFolder then [] else changed.paths
  | .placeholderCreated _ => []

theorem Change.addModifiedPath_mem_steps_iff (change : Change) (path : String) (isFolder : Bool) :
    .addModifiedPath path isFolder ∈ change.steps ↔
      path ∈ change.paths ∧ isFolder = change.isFolder := by
  cases change <;>
    simp [Change.steps, Change.paths, Change.oldPath?, Change.path, Change.isFolder] <;> grind

theorem Task.addModifiedPath_mem_steps_iff (task : Task) (path : String) :
    .addModifiedPath path false ∈ task.steps ↔ path ∈ task.filePaths := by
  cases task with
  | placeholderCreated record => simp [Task.steps, Task.filePaths]
  | change changed =>
      rw [Task.steps, Change.addModifiedPath_mem_steps_iff, Task.filePaths]
      cases changed.isFolder <;> simp

namespace Stores

structure Serving (stores : Stores) : Prop where
  isOpen : stores.database.isShutDown = false
  wellKeyed : stores.paths.WellKeyed

theorem Serving.applyStep {stores : Stores} (serving : stores.Serving) (step : StoreStep) :
    (stores.applyStep step).1 = .ok () ∧ (stores.applyStep step).2.Serving ∧
      ("" ∈ (stores.applyStep step).2.paths.all ↔
        (∃ path, step = .addModifiedPath path false ∧ IsBlank path) ∨ "" ∈ stores.paths.all) := by
  have stillOpen := (Pool.isShutDown_used _).trans serving.isOpen
  cases step with
  | addModifiedPath path isFolder =>
      have kept : (stores.modifiedPaths.addEntry (normalizeEntry path isFolder)).1.accepted = true ∧
          (stores.setModifiedPaths
            (stores.modifiedPaths.addEntry (normalizeEntry path isFolder)).2).Serving := by
        rcases stores.modifiedPaths.addEntry_cases (normalizeEntry path isFolder) with
          ⟨_, same⟩ | ⟨_, _, added⟩ | ⟨_, closed, _⟩
        · rw [same]
          exact ⟨rfl, serving⟩
        · rw [added]
          exact ⟨rfl, stillOpen, serving.wellKeyed.put _⟩
        · exact absurd (serving.isOpen.symm.trans closed) (by simp)
      have empty : "" ∈ (stores.modifiedPaths.addEntry (normalizeEntry path isFolder)).2.paths.all ↔
          (isFolder = false ∧ IsBlank path) ∨ "" ∈ stores.paths.all := by
        rw [← normalizeEntry_eq_empty_iff]
        exact ModifiedPathsStore.empty_mem_addEntry serving.isOpen serving.wellKeyed _
      rw [applyStep_addModifiedPath]
      exact ⟨if_pos kept.1, kept.2, empty.trans (by simp)⟩
  | removePlaceholder path =>
      rw [applyStep_removePlaceholder serving.isOpen]
      exact ⟨rfl, ⟨stillOpen, serving.wellKeyed⟩, by simp⟩
  | addPlaceholder record =>
      rw [applyStep_addPlaceholder serving.isOpen]
      exact ⟨rfl, ⟨stillOpen, serving.wellKeyed⟩, by simp⟩

theorem Serving.applySteps {stores : Stores} (serving : stores.Serving)
    (steps : List StoreStep) :
    (stores.applySteps steps).1 = .ok () ∧ (stores.applySteps steps).2.Serving ∧
      ("" ∈ (stores.applySteps steps).2.paths.all ↔
        (∃ path, .addModifiedPath path false ∈ steps ∧ IsBlank path) ∨ "" ∈ stores.paths.all) := by
  induction steps generalizing stores with
  | nil => exact ⟨rfl, serving, by simp [Stores.applySteps]⟩
  | cons step rest ih =>
      obtain ⟨succeeded, next, first⟩ := serving.applyStep step
      obtain ⟨all, last, later⟩ := ih next
      have unfolded : stores.applySteps (step :: rest) =
          (stores.applyStep step).2.applySteps rest := by
        rw [Stores.applySteps]
        split
        · rename_i after applied
          rw [applied]
        · rename_i error after failed
          rw [failed] at succeeded
          exact absurd succeeded (by simp)
      rw [unfolded]
      refine ⟨all, last, later.trans ?_⟩
      rw [first, ← or_assoc]
      refine or_congr ?_ Iff.rfl
      constructor
      · rintro (⟨path, recorded, blank⟩ | ⟨path, same, blank⟩)
        · exact ⟨path, List.mem_cons_of_mem _ recorded, blank⟩
        · exact ⟨path, same ▸ List.mem_cons_self, blank⟩
      · rintro ⟨path, recorded, blank⟩
        rcases List.mem_cons.mp recorded with same | later
        · exact .inr ⟨path, same.symm, blank⟩
        · exact .inl ⟨path, later, blank⟩

end Stores

namespace Pipeline

theorem process_of_serving {pipeline : Pipeline} (serving : pipeline.stores.Serving)
    (logged : LoggedTask) :
    (pipeline.process logged).stores.Serving ∧
      ("" ∈ (pipeline.process logged).stores.paths.all ↔
        (∃ path ∈ logged.task.filePaths, IsBlank path) ∨ "" ∈ pipeline.stores.paths.all) := by
  obtain ⟨succeeded, kept, empty⟩ := serving.applySteps logged.task.steps
  rw [Schedule.process_eq]
  split
  · rename_i stores applied
    rw [applied] at kept empty
    simp only [Task.addModifiedPath_mem_steps_iff] at empty
    exact ⟨⟨Database.isOpen_run kept.isOpen _, kept.wellKeyed⟩, empty⟩
  · rename_i error stores failed
    rw [failed] at succeeded
    exact absurd succeeded (by simp)

theorem stores_enqueue (task : Task) (pipeline : Pipeline) :
    (pipeline.enqueue task).2.stores =
      { pipeline.stores with database := (TaskLog.append task pipeline.stores.database).2 } := by
  unfold enqueue TaskQueue.enqueue
  rcases TaskLog.append task pipeline.stores.database with ⟨_ | _, after⟩ <;> rfl

theorem receiveEvent_of_serving {pipeline : Pipeline} (serving : pipeline.stores.Serving)
    (event : Event) :
    (pipeline.receiveEvent event).2.stores.Serving ∧
      (pipeline.receiveEvent event).2.stores.paths = pipeline.stores.paths := by
  unfold receiveEvent
  split
  · exact ⟨serving, rfl⟩
  · rw [stores_enqueue]
    exact ⟨⟨Database.isOpen_run serving.isOpen _, serving.wellKeyed⟩, rfl⟩

/-- What a pipeline comes to that was started on a database, and the tasks that its worker took up
since. Others may change the rows in between. -/
inductive Reached (database : Database) : List Task → Pipeline → Prop where
  | started {pipeline : Pipeline} {after : Database}
      (started : start database = (.ok pipeline, after)) : Reached database [] pipeline
  | event {done : List Task} {pipeline : Pipeline} (event : Event)
      (reached : Reached database done pipeline) :
      Reached database done (pipeline.receiveEvent event).2
  | worked {done : List Task} {pipeline : Pipeline} {logged : LoggedTask} {queue : TaskQueue}
      (received : pipeline.queue.receive = (some logged, queue))
      (reached : Reached database done pipeline) :
      Reached database (done ++ [logged.task]) ({ pipeline with queue }.process logged)
  | parsed {done : List Task} {pipeline : Pipeline} (reached : Reached database done pipeline) :
      Reached database done { pipeline with projectionParsed := true }
  | rewritten {done : List Task} {pipeline : Pipeline} (tables : Tables)
      (reached : Reached database done pipeline) :
      Reached database done (pipeline.setDatabase { pipeline.stores.database with tables })

namespace Reached

variable {database : Database} {done : List Task} {pipeline : Pipeline}

theorem processAll (tasks : List LoggedTask)
    (reached : Reached database done
      { pipeline with queue := { pipeline.queue with channel := tasks } }) :
    Reached database (done ++ tasks.map (·.task))
      ({ pipeline with queue := { pipeline.queue with channel := [] } }.processAll tasks) := by
  induction tasks generalizing done pipeline with
  | nil => rwa [List.map_nil, List.append_nil]
  | cons logged rest ih =>
      have next : Reached database (done ++ [logged.task]) _ := .worked rfl reached
      have later := @ih _ (pipeline.process logged) (by
        rw [← Schedule.process_setChannel]
        exact next)
      rw [← Schedule.process_setChannel, List.append_assoc] at later
      exact later

theorem drain (reached : Reached database done pipeline) :
    Reached database (done ++ pipeline.queue.channel.map (·.task)) pipeline.drain := by
  exact reached.processAll pipeline.queue.channel

/-- The empty entry is in the set only for two reasons: it was in the table, or a task named a file
by a path without names. -/
theorem serving (reached : Reached database done pipeline) :
    pipeline.stores.Serving ∧
      ("" ∈ pipeline.stores.paths.all ↔
        "" ∈ database.tables.modifiedPaths ∨
          ∃ task ∈ done, ∃ path ∈ task.filePaths, IsBlank path) := by
  induction reached with
  | @started pipeline after started =>
      have isOpen := isOpen_of_start started
      obtain ⟨logged, logs⟩ := logs_of_start started
      rw [start_of_logs isOpen (readable_of_start started) logs] at started
      obtain rfl := Except.ok.inj (congrArg Prod.fst started)
      refine ⟨⟨(isShutDown_restarted database logged).trans isOpen,
        ModifiedPaths.wellKeyed_ofEntries _⟩, ?_⟩
      have read : "" ∈ (restarted database logged).stores.paths.all ↔
          "" ∈ (ModifiedPathsStore.seed database.tables).1 :=
        ModifiedPaths.empty_mem_all_ofEntries _
      rw [read, ModifiedPathsStore.empty_mem_seed]
      simp
  | event event reached ih =>
      obtain ⟨kept, same⟩ := receiveEvent_of_serving ih.1 event
      exact ⟨kept, same ▸ ih.2⟩
  | @worked done pipeline logged queue received reached ih =>
      obtain ⟨kept, empty⟩ := @process_of_serving { pipeline with queue } ih.1 logged
      refine ⟨kept, empty.trans ((or_congr Iff.rfl ih.2).trans ?_)⟩
      simp only [List.mem_append, List.mem_singleton, or_and_right, exists_or, exists_eq_left]
      rw [or_left_comm, or_comm (a := ∃ path ∈ logged.task.filePaths, IsBlank path)]
  | parsed reached ih => exact ih
  | rewritten tables reached ih => exact ⟨⟨ih.1.isOpen, ih.1.wellKeyed⟩, ih.2⟩

end Reached

end Pipeline

end Enlistment
