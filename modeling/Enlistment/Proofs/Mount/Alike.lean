import Enlistment.Proofs.Mount.Drained
import Enlistment.Proofs.Mount.Provenance

/-!
Pipelines that cannot be told apart. What a pipeline does depends on its rows, on what it remembers
of them and on its queue; not on its connections, nor on how many placeholders were counted. Two that
are alike in the former take up the same tasks, and are alike after all that happens.
-/

namespace Enlistment

/-- The same rows, and both can be reached or neither. Connections make no difference. -/
structure Database.Alike (left right : Database) : Prop where
  tables : left.tables = right.tables
  isShutDown : left.isShutDown = right.isShutDown

theorem Database.Alike.run {Answer : Type} {left right : Database} (alike : left.Alike right)
    (statement : Tables → Except DatabaseError (Answer × Tables)) :
    ∃ answer leftAfter rightAfter, left.run statement = (answer, leftAfter) ∧
      right.run statement = (answer, rightAfter) ∧ leftAfter.Alike rightAfter := by
  cases state : right.isShutDown with
  | true =>
      exact ⟨_, _, _, run_of_shutDown (alike.isShutDown.trans state) statement,
        run_of_shutDown state statement, alike⟩
  | false =>
      have leftState := alike.isShutDown.trans state
      have pools : left.pool.used.isShutDown = right.pool.used.isShutDown := by
        simpa [Database.isShutDown] using alike.isShutDown
      rw [run_of_open leftState, run_of_open state, alike.tables]
      cases statement right.tables with
      | error error => exact ⟨_, _, _, rfl, rfl, rfl, pools⟩
      | ok found => exact ⟨_, _, _, rfl, rfl, rfl, pools⟩

structure Stores.Alike (left right : Stores) : Prop where
  database : left.database.Alike right.database
  memory : left.memory = right.memory
  paths : left.paths = right.paths

namespace Stores.Alike

variable {left right : Stores}

theorem write (alike : left.Alike right) (path : String) (present : Bool)
    (change : Tables → Tables) :
    ∃ answer leftAfter rightAfter,
      left.placeholders.write path present change = (answer, leftAfter) ∧
      right.placeholders.write path present change = (answer, rightAfter) ∧
      (left.setPlaceholders leftAfter).Alike (right.setPlaceholders rightAfter) := by
  obtain ⟨answer, leftAfter, rightAfter, leftRun, rightRun, after⟩ :=
    alike.database.run fun tables => .ok ((), change tables)
  simp only [PlaceholderStore.write, Database.update, placeholders, leftRun, rightRun]
  cases answer with
  | error error => exact ⟨_, _, _, rfl, rfl, after, alike.memory, alike.paths⟩
  | ok done =>
      exact ⟨_, _, _, rfl, rfl, after, congrArg (·.remember path present) alike.memory,
        alike.paths⟩

theorem addEntry (alike : left.Alike right) (entry : String) :
    ∃ outcome leftAfter rightAfter,
      left.modifiedPaths.addEntry entry = (outcome, leftAfter) ∧
      right.modifiedPaths.addEntry entry = (outcome, rightAfter) ∧
      (left.setModifiedPaths leftAfter).Alike (right.setModifiedPaths rightAfter) := by
  obtain ⟨answer, leftAfter, rightAfter, leftRun, rightRun, after⟩ :=
    alike.database.run fun tables => .ok ((), tables.insertModifiedPath entry)
  simp only [ModifiedPathsStore.addEntry, Database.update, modifiedPaths, leftRun, rightRun,
    alike.paths]
  split
  · exact ⟨_, _, _, rfl, rfl, alike.database, alike.memory, rfl⟩
  · cases answer with
    | error error => exact ⟨_, _, _, rfl, rfl, after, alike.memory, rfl⟩
    | ok done => exact ⟨_, _, _, rfl, rfl, after, alike.memory, rfl⟩

theorem applyStep (alike : left.Alike right) (step : StoreStep) :
    ∃ answer leftAfter rightAfter, left.applyStep step = (answer, leftAfter) ∧
      right.applyStep step = (answer, rightAfter) ∧ leftAfter.Alike rightAfter := by
  cases step with
  | addModifiedPath path isFolder =>
      obtain ⟨outcome, _, _, leftAdd, rightAdd, after⟩ :=
        alike.addEntry (Path.normalizeEntry path isFolder)
      rw [applyStep_addModifiedPath, applyStep_addModifiedPath, leftAdd, rightAdd]
      exact ⟨_, _, _, rfl, rfl, after⟩
  | removePlaceholder path =>
      obtain ⟨answer, _, _, leftWrite, rightWrite, after⟩ :=
        alike.write path false (Tables.deletePlaceholder path)
      simp only [Stores.applyStep, PlaceholderStore.remove, leftWrite, rightWrite]
      exact ⟨_, _, _, rfl, rfl, after⟩
  | addPlaceholder record =>
      obtain ⟨answer, _, _, leftWrite, rightWrite, after⟩ :=
        alike.write record.path true (Tables.putPlaceholder (.ofRecord record))
      simp only [Stores.applyStep, PlaceholderStore.add, leftWrite, rightWrite]
      exact ⟨_, _, _, rfl, rfl, after⟩

theorem applySteps (alike : left.Alike right) (steps : List StoreStep) :
    ∃ answer leftAfter rightAfter, left.applySteps steps = (answer, leftAfter) ∧
      right.applySteps steps = (answer, rightAfter) ∧ leftAfter.Alike rightAfter := by
  induction steps generalizing left right with
  | nil => exact ⟨_, _, _, rfl, rfl, alike⟩
  | cons step rest ih =>
      obtain ⟨answer, leftAfter, rightAfter, leftStep, rightStep, after⟩ := alike.applyStep step
      rw [Stores.applySteps, Stores.applySteps, leftStep, rightStep]
      cases answer with
      | error error => exact ⟨_, _, _, rfl, rfl, after⟩
      | ok done => exact ih after

end Stores.Alike

namespace Pipeline

def Alike (left right : Pipeline) : Prop :=
  ∃ stores created, left = { right with stores, created } ∧ stores.Alike right.stores

namespace Alike

variable {left right : Pipeline}

theorem refl (pipeline : Pipeline) : pipeline.Alike pipeline :=
  ⟨pipeline.stores, pipeline.created, rfl, ⟨rfl, rfl⟩, rfl, rfl⟩

theorem tables (alike : left.Alike right) :
    left.stores.database.tables = right.stores.database.tables := by
  obtain ⟨stores, created, rfl, same⟩ := alike
  exact same.database.tables

theorem queue (alike : left.Alike right) : left.queue = right.queue := by
  obtain ⟨stores, created, rfl, _⟩ := alike
  rfl

theorem setQueue (alike : left.Alike right) (queue : TaskQueue) :
    Pipeline.Alike { left with queue } { right with queue } := by
  obtain ⟨stores, created, rfl, same⟩ := alike
  exact ⟨stores, created, rfl, same⟩

theorem setCreated (alike : left.Alike right) (leftCreated rightCreated : List (String × Nat)) :
    Pipeline.Alike { left with created := leftCreated } { right with created := rightCreated } := by
  obtain ⟨stores, created, rfl, same⟩ := alike
  exact ⟨stores, leftCreated, rfl, same⟩

theorem enqueue (alike : left.Alike right) (task : Task) :
    (left.enqueue task).2.Alike (right.enqueue task).2 := by
  obtain ⟨stores, created, rfl, same⟩ := alike
  obtain ⟨answer, leftAfter, rightAfter, leftRun, rightRun, after⟩ := same.database.run fun tables =>
    (tables.appendTask fun id => LoggedTask.toRow ⟨id, task⟩).mapError DatabaseError.statement
  cases answer with
  | error error =>
      rw [Schedule.enqueue_of_refusal rightRun,
        @Schedule.enqueue_of_refusal { right with stores, created } _ _ _ leftRun]
      exact ⟨_, created, rfl, after, same.memory, same.paths⟩
  | ok id =>
      rw [Schedule.enqueue_of_append rightRun,
        @Schedule.enqueue_of_append { right with stores, created } _ _ _ leftRun]
      exact ⟨_, created, rfl, after, same.memory, same.paths⟩

theorem receiveEvent (alike : left.Alike right) (event : Event) :
    (left.receiveEvent event).2.Alike (right.receiveEvent event).2 := by
  unfold Pipeline.receiveEvent
  split
  · exact alike
  · exact (alike.setCreated _ _).enqueue _

theorem process (alike : left.Alike right) (logged : LoggedTask) :
    (left.process logged).Alike (right.process logged) := by
  obtain ⟨stores, created, rfl, same⟩ := alike
  obtain ⟨answer, leftAfter, rightAfter, leftRun, rightRun, after⟩ :=
    same.applySteps logged.task.steps
  rw [Schedule.process_eq, Schedule.process_eq, rightRun]
  simp only [leftRun]
  cases answer with
  | error error => exact ⟨_, created, rfl, after⟩
  | ok done =>
      obtain ⟨_, leftRows, rightRows, leftDelete, rightDelete, rows⟩ :=
        after.database.run fun tables => .ok ((), tables.deleteTask logged.id)
      simp only [deleteFromLog, TaskLog.delete, Database.update, leftDelete, rightDelete]
      exact ⟨_, created, rfl, rows, after.memory, after.paths⟩

theorem processAll (alike : left.Alike right) (tasks : List LoggedTask) :
    (left.processAll tasks).Alike (right.processAll tasks) := by
  induction tasks generalizing left right with
  | nil => exact alike
  | cons logged rest ih => exact ih (alike.process logged)

theorem takenBy (alike : left.Alike right) (action : PipelineAction) :
    left.takenBy action = right.takenBy action := by
  cases action <;> simp only [Pipeline.takenBy, alike.queue]

theorem perform (alike : left.Alike right) (action : PipelineAction) :
    (left.perform action).Alike (right.perform action) := by
  cases action with
  | receive event => exact alike.receiveEvent event
  | work =>
      simp only [Pipeline.perform, TaskQueue.receive, alike.queue]
      cases right.queue.channel with
      | nil => exact alike
      | cons logged rest => exact (alike.setQueue _).process logged
  | drain =>
      simp only [Pipeline.perform, drain, alike.queue]
      exact (alike.setQueue _).processAll _
  | restart sizes =>
      simp only [Pipeline.perform, alike.tables]
      split
      · exact refl _
      · exact alike

theorem performAll (alike : left.Alike right) (actions : List PipelineAction) :
    (left.performAll actions).Alike (right.performAll actions) := by
  induction actions generalizing left right with
  | nil => exact alike
  | cons action rest ih => exact ih (alike.perform action)

theorem takenUp (alike : left.Alike right) (actions : List PipelineAction) :
    left.takenUp actions = right.takenUp actions := by
  induction actions generalizing left right with
  | nil => rfl
  | cons action rest ih =>
      rw [Pipeline.takenUp, Pipeline.takenUp, alike.takenBy, ih (alike.perform action)]

end Alike

/-! ### What queueing a task comes to -/

def withLogged (task : Task) (pipeline : Pipeline) : Pipeline :=
  pipeline.setDatabase
    { pipeline.stores.database with tables := pipeline.stores.database.tables.withTask task }

def withSent (task : Task) (pipeline : Pipeline) : Pipeline :=
  { pipeline.withLogged task with
    queue := pipeline.queue.extend [⟨pipeline.stores.database.tables.lastTaskId + 1, task⟩] }

/-- A task is logged and sent, or logged and not sent because nobody receives, or not even
logged. -/
theorem enqueue_cases (task : Task) (created : List (String × Nat)) (pipeline : Pipeline) :
    (pipeline.stores.database.isShutDown = false ∧
      pipeline.stores.database.tables.lastTaskId < Tables.lastPossibleTaskId ∧
      ∃ answer after, { pipeline with created }.enqueue task = (answer, after) ∧
        (pipeline.queue.isOpen = true ∧ answer = .ok () ∧ after.Alike (pipeline.withSent task) ∨
          pipeline.queue.isOpen = false ∧ answer = .error .closed ∧
            after.Alike (pipeline.withLogged task))) ∨
    ∃ cause after, { pipeline with created }.enqueue task = (.error (.database cause), after) ∧
      after.Alike pipeline ∧
      (cause = .shutDown ∧ pipeline.stores.database.isShutDown = true ∨
        cause = .statement .full ∧
          ¬ pipeline.stores.database.tables.lastTaskId < Tables.lastPossibleTaskId) := by
  rcases TaskLog.append_cases task pipeline.stores.database with
    ⟨isOpen, room, appended⟩ | ⟨cause, kept, refused, rows, reached, why⟩
  · refine .inl ⟨isOpen, room, _, _, @Schedule.enqueue_of_append { pipeline with created } _ _ _
      appended, ?_⟩
    have sameState := Pool.isShutDown_used pipeline.stores.database.pool
    cases receives : pipeline.queue.isOpen with
    | true =>
        simp only [TaskQueue.extend_singleton_of_open _ receives]
        exact .inl ⟨trivial, trivial, _, created, rfl, ⟨rfl, sameState⟩, rfl, rfl⟩
    | false =>
        have lost : ¬ pipeline.queue.isOpen = true := by simp [receives]
        simp only [TaskQueue.send, if_neg lost]
        exact .inr ⟨trivial, trivial, _, created, rfl, ⟨rfl, sameState⟩, rfl, rfl⟩
  · exact .inr ⟨cause, _, @Schedule.enqueue_of_refusal { pipeline with created } _ _ _ refused,
      ⟨_, created, rfl, ⟨rows, reached⟩, rfl, rfl⟩, why⟩

end Pipeline

end Enlistment
