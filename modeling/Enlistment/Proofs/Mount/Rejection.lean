import Enlistment.Proofs.Mount.Alike
import Enlistment.Proofs.Mount.Queueing

/-!
What is left of a task that is rejected. A task is logged before it is sent. One that the log
refuses leaves nothing, so whatever happens later happens as if it had never been queued. One that
nobody can receive any more stays in the log: the run that rejected it does nothing about it, and the
next run takes it up behind all that was logged before.
-/

namespace Enlistment

inductive Offer where
  | ofTask (task : Task)
  | ofEvent (event : Event)
deriving DecidableEq

def Offer.task? : Offer → Option Task
  | ofTask task => some task
  | ofEvent event => event.task?

namespace Pipeline

/-! ### A queue that nobody receives from -/

variable {pipeline : Pipeline}

theorem accepted_of_closed (closed : pipeline.queue.isOpen = false) (task : Task) :
    pipeline.accepted task = [] := by
  rcases append : TaskLog.append task pipeline.stores.database with ⟨error | id, after⟩
  · rw [accepted, Schedule.enqueue_of_refusal append]
  · rw [accepted, Schedule.enqueue_of_append append, TaskQueue.send, closed]
    rfl

/-- A run that nothing can be sent in takes up what was sent before, and no more. -/
theorem perform_of_closed (closed : pipeline.queue.isOpen = false) {action : PipelineAction}
    (goesOn : action.isRestart = false) :
    (pipeline.perform action).queue.isOpen = false ∧
      pipeline.takenBy action ++ (pipeline.perform action).queue.channel =
        pipeline.queue.channel := by
  cases action with
  | receive event =>
      have none : pipeline.acceptedOf event = [] := by
        unfold acceptedOf
        split
        · exact accepted_of_closed closed _
        · rfl
      have queue := queue_receiveEvent event pipeline
      rw [none, TaskQueue.extend_nil] at queue
      rw [perform, queue]
      exact ⟨closed, rfl⟩
  | work => exact ⟨pipeline.worked_work.isOpen.trans closed, pipeline.worked_work.order⟩
  | drain => exact ⟨pipeline.worked_drain.isOpen.trans closed, pipeline.worked_drain.order⟩
  | restart sizes => exact absurd goesOn (by simp [PipelineAction.isRestart])

theorem takenUp_of_closed (closed : pipeline.queue.isOpen = false) {actions : List PipelineAction}
    (goesOn : ∀ action ∈ actions, action.isRestart = false) :
    pipeline.takenUp actions ++ (pipeline.performAll actions).queue.channel =
      pipeline.queue.channel := by
  induction actions generalizing pipeline with
  | nil => rfl
  | cons action rest ih =>
      obtain ⟨stillClosed, taken⟩ := perform_of_closed closed (goesOn action List.mem_cons_self)
      have later := ih stillClosed fun other member => goesOn other (List.mem_cons_of_mem _ member)
      rw [takenUp, List.append_assoc, performAll, List.foldl_cons, ← performAll, later, taken]

/-! ### Rejected tasks -/

def offer : Offer → Pipeline → Except QueueError Unit × Pipeline
  | .ofTask task, pipeline => pipeline.enqueue task
  | .ofEvent event, pipeline => pipeline.receiveEvent event

/-- Whatever is rejected is a task, which may have been counted before. -/
theorem enqueue_of_offer {offered : Offer} {error : QueueError} {after : Pipeline}
    (rejected : pipeline.offer offered = (.error error, after)) :
    ∃ task created, offered.task? = some task ∧
      { pipeline with created }.enqueue task = (.error error, after) := by
  cases offered with
  | ofTask task => exact ⟨task, pipeline.created, rfl, rejected⟩
  | ofEvent event =>
      rw [offer, receiveEvent] at rejected
      split at rejected
      · exact absurd (congrArg Prod.fst rejected) (by simp)
      · rename_i task follows
        exact ⟨task, _, follows, rejected⟩

structure Remains (task : Task) (before after : Pipeline) : Prop where
  logged : after.Alike (before.withLogged task)
  thisRun : ∀ actions : List PipelineAction, (∀ action ∈ actions, action.isRestart = false) →
    after.takenUp actions ++ (after.performAll actions).queue.channel = before.queue.channel
  nextRun : ∀ sizes restarted, startOn sizes before.stores.database.tables = .ok restarted →
    ∃ again, startOn sizes after.stores.database.tables = .ok again ∧
      again.queue.channel = restarted.queue.channel ++ [⟨before.lastTaskId + 1, task⟩]

theorem startOn_withTask {sizes : PoolSizes} {tables : Tables} {restarted : Pipeline}
    (started : startOn sizes tables = .ok restarted) (task : Task) :
    ∃ again, startOn sizes (tables.withTask task) = .ok again ∧
      again.queue.channel = restarted.queue.channel ++ [⟨tables.lastTaskId + 1, task⟩] := by
  obtain ⟨known, readable, logged, logs, rfl⟩ := restarted_of_startOn started
  have more : (tables.withTask task).Logs (logged ++ [⟨tables.lastTaskId + 1, task⟩]) :=
    logs.append _ _
  exact ⟨_, @startOn_of_logs sizes (tables.withTask task) known readable _ more, rfl⟩

theorem remains_of_closed {task : Task} {after : Pipeline}
    (closed : pipeline.queue.isOpen = false) (logged : after.Alike (pipeline.withLogged task)) :
    Remains task pipeline after := by
  refine ⟨logged, fun actions goesOn => ?_, fun sizes restarted started => ?_⟩
  · rw [logged.takenUp, (logged.performAll actions).queue]
    exact @takenUp_of_closed (pipeline.withLogged task) closed actions goesOn
  · rw [logged.tables]
    exact startOn_withTask started task

/-- What a rejected task leaves. The channel and the number of the queue are as they were. If the log
refused the task, nothing tells the pipeline from one that was never offered it, now or later. If
nobody can receive it, it stays in the log: it is not taken up before the next start, and then it is
the last of what is taken up. -/
theorem left_by_rejected {offered : Offer} {error : QueueError} {after : Pipeline}
    (rejected : pipeline.offer offered = (.error error, after)) :
    after.queue = pipeline.queue ∧
      ((∃ cause, error = .database cause ∧ after.Alike pipeline ∧ ∀ actions,
          after.takenUp actions = pipeline.takenUp actions ∧
          (after.performAll actions).Alike (pipeline.performAll actions)) ∨
        error = .closed ∧ ∃ task, offered.task? = some task ∧ Remains task pipeline after) := by
  obtain ⟨task, created, follows, queued⟩ := enqueue_of_offer rejected
  rcases enqueue_cases task created pipeline with
    ⟨_, _, answer, after, done, ⟨_, ok, _⟩ | ⟨closed, same, logged⟩⟩ | ⟨cause, after, done, alike, _⟩
  all_goals obtain ⟨result, rfl⟩ := Prod.mk.inj (queued.symm.trans done)
  · exact absurd (result.trans ok) nofun
  · exact ⟨logged.queue, .inr ⟨Except.error.inj (result.trans same), task, follows,
      remains_of_closed closed logged⟩⟩
  · exact ⟨alike.queue, .inl ⟨cause, Except.error.inj result, alike, fun actions =>
      ⟨alike.takenUp actions, alike.performAll actions⟩⟩⟩

def withoutReceiver (pipeline : Pipeline) : Pipeline :=
  { pipeline with queue := pipeline.queue.close }

theorem left_by_rejected_without_receiver :
    ((fresh ⟨1, 1⟩).withoutReceiver.offer (.ofEvent (.changed (.fileCreated "late.txt")))).1 =
        .error .closed ∧
      Remains (.change (.fileCreated "late.txt")) (fresh ⟨1, 1⟩).withoutReceiver
        ((fresh ⟨1, 1⟩).withoutReceiver.offer (.ofEvent (.changed (.fileCreated "late.txt")))).2 := by
  refine ⟨rfl, ?_⟩
  rcases (left_by_rejected (Prod.ext rfl rfl : (fresh ⟨1, 1⟩).withoutReceiver.offer
      (.ofEvent (.changed (.fileCreated "late.txt"))) = (.error .closed, _))).2 with
    ⟨cause, other, _⟩ | ⟨_, task, follows, remains⟩
  · contradiction
  · have same : some (Task.change (.fileCreated "late.txt")) = some task := follows
    obtain rfl := Option.some.inj same
    exact remains

/-- A task that was rejected is in the log, and the next run does it. -/
theorem rejected_task_is_applied_by_next_run :
    ∃ after again,
      (fresh ⟨1, 1⟩).withoutReceiver.offer (.ofEvent (.changed (.fileCreated "late.txt"))) =
        (.error .closed, after) ∧
      after.stores.database.tables.tasks ≠
        (fresh ⟨1, 1⟩).withoutReceiver.stores.database.tables.tasks ∧
      startOn ⟨1, 1⟩ after.stores.database.tables = .ok again ∧
      "late.txt" ∈ again.drain.stores.paths.all := by
  refine ⟨_, _, rfl, ?_, rfl, ?_⟩ <;> decide +kernel

end Pipeline

end Enlistment
