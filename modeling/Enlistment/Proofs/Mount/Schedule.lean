import Enlistment.Mount.Pipeline
import Mathlib.Logic.Relation

/-!
The work of a pipeline write by write. Tasks are logged and sent one after the other, and one worker
takes them up; in between, wherever something was written to the store, the mount may crash. What a
pipeline does in one go, draining its queue or queueing a task, is a run of such steps.
-/

namespace Enlistment

open Relation (ReflTransGen)

namespace Schedule

structure Process where
  pipeline : Pipeline
  unsent : Option LoggedTask
  current : Option (LoggedTask × List StoreStep)

namespace Process

def database (process : Process) : Database :=
  process.pipeline.stores.database

def tables (process : Process) : Tables :=
  process.database.tables

def started (pipeline : Pipeline) : Process :=
  ⟨pipeline, none, none⟩

end Process

inductive World where
  | down (tables : Tables) (unlogged : List Task)
  | up (process : Process) (unlogged : List Task)

namespace World

def tables : World → Tables
  | down tables _ => tables
  | up process _ => process.tables

def unlogged : World → List Task
  | down _ unlogged => unlogged
  | up _ unlogged => unlogged

/-- Everything was done that can be done: what is not logged now never will be. -/
def Finished : World → Prop
  | down _ _ => False
  | up process unlogged =>
      process.unsent = none ∧ process.current = none ∧ process.pipeline.queue.channel = [] ∧
        ∀ task ∈ unlogged, ∀ id, (TaskLog.append task process.database).1 ≠ .ok id

end World

inductive Step : World → World → Prop where
  | start {tables : Tables} {unlogged : List Task} {sizes : PoolSizes}
      {database after : Database} {pipeline : Pipeline}
      (opened : Database.openOn sizes tables = .ok database)
      (started : Pipeline.start database = (.ok pipeline, after)) :
      Step (.down tables unlogged) (.up (.started pipeline) unlogged)
  | log {process : Process} {task : Task} {rest : List Task} {id : Int} {database : Database}
      (ready : process.unsent = none)
      (logged : TaskLog.append task process.database = (.ok id, database)) :
      Step (.up process (task :: rest))
        (.up { process with
          pipeline := process.pipeline.setDatabase database
          unsent := some ⟨id, task⟩ } rest)
  | refuse {process : Process} {task : Task} {unlogged : List Task} {error : DatabaseError}
      {database : Database} (ready : process.unsent = none) (wanted : task ∈ unlogged)
      (refused : TaskLog.append task process.database = (.error error, database)) :
      Step (.up process unlogged)
        (.up { process with pipeline := process.pipeline.setDatabase database } unlogged)
  | send {process : Process} {unlogged : List Task} {logged : LoggedTask} {queue : TaskQueue}
      (waiting : process.unsent = some logged)
      (sent : process.pipeline.queue.send logged = (.ok (), queue)) :
      Step (.up process unlogged)
        (.up { process with pipeline := { process.pipeline with queue }, unsent := none } unlogged)
  | receive {process : Process} {unlogged : List Task} {logged : LoggedTask} {queue : TaskQueue}
      (idle : process.current = none)
      (received : process.pipeline.queue.receive = (some logged, queue)) :
      Step (.up process unlogged)
        (.up { process with
          pipeline := { process.pipeline with queue }
          current := some (logged, logged.task.steps) } unlogged)
  | write {process : Process} {unlogged : List Task} {logged : LoggedTask} {step : StoreStep}
      {rest : List StoreStep} {stores : Stores}
      (working : process.current = some (logged, step :: rest))
      (written : process.pipeline.stores.applyStep step = (.ok (), stores)) :
      Step (.up process unlogged)
        (.up { process with
          pipeline := { process.pipeline with stores }
          current := some (logged, rest) } unlogged)
  | abandon {process : Process} {unlogged : List Task} {logged : LoggedTask} {step : StoreStep}
      {rest : List StoreStep} {error : ApplyError} {stores : Stores}
      (working : process.current = some (logged, step :: rest))
      (failed : process.pipeline.stores.applyStep step = (.error error, stores)) :
      Step (.up process unlogged)
        (.up { process with
          pipeline := { process.pipeline with stores }.finish
          current := none } unlogged)
  | finish {process : Process} {unlogged : List Task} {logged : LoggedTask}
      (working : process.current = some (logged, [])) :
      Step (.up process unlogged)
        (.up { process with
          pipeline :=
            ({ process.pipeline with
              invalidations := process.pipeline.invalidations + 1 }.deleteFromLog logged.id).finish
          current := none } unlogged)

/-- A crash leaves what was written. A mount can also crash while it starts, after the version was
stamped and after the paths were read. -/
inductive Crash : World → World → Prop where
  | running {process : Process} {unlogged : List Task} :
      Crash (.up process unlogged) (.down process.tables unlogged)
  | opening {tables : Tables} {unlogged : List Task} {sizes : PoolSizes} {database : Database}
      (opened : Database.openOn sizes tables = .ok database) :
      Crash (.down tables unlogged) (.down database.tables unlogged)
  | loading {tables : Tables} {unlogged : List Task} {sizes : PoolSizes}
      {database after : Database} {stores : Stores}
      (opened : Database.openOn sizes tables = .ok database)
      (loaded : Stores.load database = (.ok stores, after)) :
      Crash (.down tables unlogged) (.down after.tables unlogged)

def CleanRun : World → World → Prop :=
  ReflTransGen Step

def Run : World → World → Prop :=
  ReflTransGen fun before after => Step before after ∨ Crash before after

theorem CleanRun.run {before after : World} (clean : CleanRun before after) : Run before after := by
  exact ReflTransGen.mono (fun _ _ => Or.inl) _ _ clean

theorem applySteps_run {steps : List StoreStep} {process : Process} {logged : LoggedTask}
    (working : process.current = some (logged, steps)) (unlogged : List Task) :
    match process.pipeline.stores.applySteps steps with
    | (.ok _, stores) =>
        CleanRun (.up process unlogged)
          (.up { process with
            pipeline := { process.pipeline with stores }
            current := some (logged, []) } unlogged)
    | (.error _, stores) =>
        CleanRun (.up process unlogged)
          (.up { process with
            pipeline := { process.pipeline with stores }.finish
            current := none } unlogged) := by
  induction steps generalizing process with
  | nil =>
      rw [Stores.applySteps]
      have same : process = ⟨process.pipeline, process.unsent, some (logged, [])⟩ := by
        rw [← working]
      dsimp only
      rw [← same]
      exact ReflTransGen.refl
  | cons step rest ih =>
      rw [Stores.applySteps]
      cases applied : process.pipeline.stores.applyStep step with
      | mk answer stores =>
          cases answer with
          | ok done =>
              have next := @ih { process with
                pipeline := { process.pipeline with stores }
                current := some (logged, rest) } rfl
              dsimp only at next ⊢
              split
              · rename_i after finished
                rw [finished] at next
                exact ReflTransGen.head (.write working applied) next
              · rename_i error after failed
                rw [failed] at next
                exact ReflTransGen.head (.write working applied) next
          | error error => exact ReflTransGen.single (.abandon working applied)

theorem process_eq (logged : LoggedTask) (pipeline : Pipeline) :
    pipeline.process logged =
      match pipeline.stores.applySteps logged.task.steps with
      | (.ok _, stores) =>
          ({ pipeline with
            stores
            invalidations := pipeline.invalidations + 1 }.deleteFromLog logged.id).finish
      | (.error _, stores) => { pipeline with stores }.finish := by
  simp only [Pipeline.process, Pipeline.apply, Stores.apply]
  rcases pipeline.stores.applySteps logged.task.steps with ⟨_ | _, stores⟩ <;> rfl

theorem process_run (pipeline : Pipeline) (unsent : Option LoggedTask) (logged : LoggedTask)
    (rest : List LoggedTask) (unlogged : List Task) :
    CleanRun
      (.up ⟨{ pipeline with queue := { pipeline.queue with channel := logged :: rest } },
        unsent, none⟩ unlogged)
      (.up ⟨{ pipeline with queue := { pipeline.queue with channel := rest } }.process logged,
        unsent, none⟩ unlogged) := by
  have applied := @applySteps_run logged.task.steps
    ⟨{ pipeline with queue := { pipeline.queue with channel := rest } }, unsent,
      some (logged, logged.task.steps)⟩ logged rfl unlogged
  dsimp only at applied
  refine ReflTransGen.head (.receive rfl rfl) ?_
  rw [process_eq]
  dsimp only
  split
  · rename_i stores outcome
    rw [outcome] at applied
    exact ReflTransGen.tail applied (.finish rfl)
  · rename_i stores outcome
    rw [outcome] at applied
    exact applied

theorem process_setChannel (channel : List LoggedTask) (logged : LoggedTask)
    (pipeline : Pipeline) :
    { pipeline with queue := { pipeline.queue with channel } }.process logged =
      { pipeline.process logged with
        queue := { (pipeline.process logged).queue with channel } } := by
  rw [process_eq, process_eq]
  dsimp only
  split <;> rfl

theorem processAll_run (tasks : List LoggedTask) (pipeline : Pipeline)
    (unsent : Option LoggedTask) (unlogged : List Task) :
    CleanRun
      (.up ⟨{ pipeline with queue := { pipeline.queue with channel := tasks } },
        unsent, none⟩ unlogged)
      (.up ⟨{ pipeline with queue := { pipeline.queue with channel := [] } }.processAll tasks,
        unsent, none⟩ unlogged) := by
  induction tasks generalizing pipeline with
  | nil => exact ReflTransGen.refl
  | cons logged rest ih =>
      have later := ih (pipeline.process logged)
      rw [← process_setChannel, ← process_setChannel] at later
      exact ReflTransGen.trans (process_run pipeline unsent logged rest unlogged) later

theorem drain_run (pipeline : Pipeline) (unlogged : List Task) :
    CleanRun (.up (.started pipeline) unlogged) (.up (.started pipeline.drain) unlogged) := by
  exact processAll_run pipeline.queue.channel pipeline none unlogged

@[simp]
theorem channel_finish (queue : TaskQueue) : queue.finish.channel = queue.channel := by
  rfl

@[simp]
theorem isOpen_finish (queue : TaskQueue) : queue.finish.isOpen = queue.isOpen := by
  rfl

@[simp]
theorem queue_process (logged : LoggedTask) (pipeline : Pipeline) :
    (pipeline.process logged).queue = pipeline.queue.finish := by
  rw [process_eq]
  split <;> rfl

@[simp]
theorem channel_process (logged : LoggedTask) (pipeline : Pipeline) :
    (pipeline.process logged).queue.channel = pipeline.queue.channel := by
  simp

@[simp]
theorem channel_drain (pipeline : Pipeline) : pipeline.drain.queue.channel = [] := by
  exact List.foldlRecOn pipeline.queue.channel _
    (motive := fun after : Pipeline => after.queue.channel = []) rfl
    fun after empty logged _ => (channel_process logged after).trans empty

theorem enqueue_of_append {pipeline : Pipeline} {task : Task} {id : Int} {database : Database}
    (logged : TaskLog.append task pipeline.stores.database = (.ok id, database)) :
    pipeline.enqueue task =
      ((pipeline.queue.send ⟨id, task⟩).1,
        { pipeline.setDatabase database with queue := (pipeline.queue.send ⟨id, task⟩).2 }) := by
  simp only [Pipeline.enqueue, TaskQueue.enqueue, logged]

theorem enqueue_of_refusal {pipeline : Pipeline} {task : Task} {error : DatabaseError}
    {database : Database}
    (refused : TaskLog.append task pipeline.stores.database = (.error error, database)) :
    pipeline.enqueue task = (.error (.database error), pipeline.setDatabase database) := by
  simp only [Pipeline.enqueue, TaskQueue.enqueue, refused]
  rfl

theorem enqueue_run {pipeline : Pipeline} {task : Task} {id : Int} {database : Database}
    (logged : TaskLog.append task pipeline.stores.database = (.ok id, database))
    (isOpen : pipeline.queue.isOpen = true) (rest : List Task) :
    CleanRun (.up (.started pipeline) (task :: rest))
      (.up (.started (pipeline.enqueue task).2) rest) := by
  have sent : pipeline.queue.send ⟨id, task⟩ = (.ok (), (pipeline.queue.send ⟨id, task⟩).2) := by
    simp [TaskQueue.send, isOpen]
  rw [enqueue_of_append logged]
  exact ReflTransGen.head (.log rfl logged) (ReflTransGen.single (.send rfl sent))

end Schedule

end Enlistment
