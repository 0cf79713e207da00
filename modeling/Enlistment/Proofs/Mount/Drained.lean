import Enlistment.Mount.Daemon
import Enlistment.Proofs.Lock.Operations
import Enlistment.Proofs.Mount.Restart
import Enlistment.Proofs.Mount.Schedule
import Mathlib.Data.List.Perm.Subperm

/-!
The lock is handed out over a drained queue only. The queue knows a number of tasks, which is raised
by those who send them and lowered by the workers. An account of the tasks themselves says what it
is the number of: the tasks that were sent and are not finished. Where it is zero, every task that
was accepted or replayed has been carried out, whatever became of it.
-/

namespace Enlistment

open Control

namespace TaskQueue

def extend (tasks : List LoggedTask) (queue : TaskQueue) : TaskQueue :=
  { queue with channel := queue.channel ++ tasks, pending := queue.pending + tasks.length }

@[simp]
theorem extend_nil (queue : TaskQueue) : queue.extend [] = queue := by
  simp [extend]

theorem extend_singleton_of_open (logged : LoggedTask) {queue : TaskQueue}
    (isOpen : queue.isOpen = true) : queue.send logged = (.ok (), queue.extend [logged]) := by
  rw [send, if_pos isOpen]
  rfl

end TaskQueue

namespace Pipeline

def accepted (task : Task) (pipeline : Pipeline) : List LoggedTask :=
  match (pipeline.enqueue task).1, (TaskLog.append task pipeline.stores.database).1 with
  | .ok _, .ok id => [⟨id, task⟩]
  | _, _ => []

def acceptedOf (event : Event) (pipeline : Pipeline) : List LoggedTask :=
  match event.task? with
  | some task => pipeline.accepted task
  | none => []

def replayed (pipeline : Pipeline) : List LoggedTask :=
  match pipeline.replay.1, (TaskLog.load pipeline.stores.database).1 with
  | .ok _, .ok tasks => tasks
  | _, _ => []

def carryOut (logged : LoggedTask) (pipeline : Pipeline) : Pipeline :=
  match pipeline.apply logged.task with
  | (.ok _, after) => after.deleteFromLog logged.id
  | (.error _, after) => after

theorem process_eq_finish (logged : LoggedTask) (pipeline : Pipeline) :
    pipeline.process logged = (pipeline.carryOut logged).finish := by
  simp only [process, carryOut]
  rcases pipeline.apply logged.task with ⟨_ | _, _⟩ <;> rfl

@[simp]
theorem queue_carryOut (logged : LoggedTask) (pipeline : Pipeline) :
    (pipeline.carryOut logged).queue = pipeline.queue := by
  simp only [carryOut, apply]
  rcases pipeline.stores.apply logged.task with ⟨_ | _, _⟩ <;> rfl

theorem queue_enqueue (task : Task) (pipeline : Pipeline) :
    (pipeline.enqueue task).2.queue = pipeline.queue.extend (pipeline.accepted task) := by
  unfold accepted
  rcases append : TaskLog.append task pipeline.stores.database with ⟨error | id, after⟩
  · simp [Schedule.enqueue_of_refusal append, setDatabase]
  · rw [Schedule.enqueue_of_append append]
    by_cases isOpen : pipeline.queue.isOpen = true
    · rw [TaskQueue.extend_singleton_of_open _ isOpen]
    · simp [TaskQueue.send, isOpen]

theorem queue_receiveEvent (event : Event) (pipeline : Pipeline) :
    (pipeline.receiveEvent event).2.queue = pipeline.queue.extend (pipeline.acceptedOf event) := by
  unfold receiveEvent acceptedOf
  cases event.task? with
  | none => simp
  | some task => exact queue_enqueue task _

theorem queue_replay (pipeline : Pipeline) :
    pipeline.replay.2.queue = pipeline.queue.extend pipeline.replayed := by
  unfold replayed replay TaskQueue.replay
  rcases TaskLog.load pipeline.stores.database with ⟨error | tasks, after⟩
  · simp
  · by_cases isOpen : pipeline.queue.isOpen = true
    · simp only [TaskQueue.sendAll_of_open tasks isOpen]
      rfl
    · cases tasks with
      | nil => simp [TaskQueue.sendAll]
      | cons logged rest => simp [TaskQueue.sendAll, TaskQueue.send, isOpen]

theorem denial_eq_none_iff (pipeline : Pipeline) :
    pipeline.denial = none ↔ pipeline.projectionParsed = true ∧ pipeline.queue.pending = 0 := by
  unfold denial
  cases pipeline.projectionParsed <;> simp

end Pipeline

structure TaskLedger where
  pipeline : Pipeline
  sent : List LoggedTask
  received : List LoggedTask
  carriedOut : List LoggedTask
  finished : List LoggedTask

/-- What happens to a pipeline. There may be any number of workers, and each goes on when it will. -/
inductive PipelineStep where
  | enqueue (task : Task)
  | event (event : Event)
  | replay
  | receive
  | carryOut (logged : LoggedTask)
  | finish (logged : LoggedTask)
  | project (isParsed : Bool)
  | close
  | stop
  | replaceStores (stores : Stores)

namespace TaskLedger

def opened (stores : Stores) : TaskLedger :=
  ⟨.ofStores stores, [], [], [], []⟩

def perform (ledger : TaskLedger) : PipelineStep → TaskLedger
  | .enqueue task =>
      { ledger with
        pipeline := (ledger.pipeline.enqueue task).2
        sent := ledger.sent ++ ledger.pipeline.accepted task }
  | .event event =>
      { ledger with
        pipeline := (ledger.pipeline.receiveEvent event).2
        sent := ledger.sent ++ ledger.pipeline.acceptedOf event }
  | .replay =>
      { ledger with
        pipeline := ledger.pipeline.replay.2
        sent := ledger.sent ++ ledger.pipeline.replayed }
  | .receive =>
      { ledger with
        pipeline := { ledger.pipeline with queue := ledger.pipeline.queue.receive.2 }
        received := ledger.received ++ ledger.pipeline.queue.receive.1.toList }
  | .carryOut logged =>
      if logged ∈ ledger.received then
        { ledger with
          pipeline := ledger.pipeline.carryOut logged
          received := ledger.received.erase logged
          carriedOut := logged :: ledger.carriedOut }
      else ledger
  | .finish logged =>
      if logged ∈ ledger.carriedOut then
        { ledger with
          pipeline := ledger.pipeline.finish
          carriedOut := ledger.carriedOut.erase logged
          finished := logged :: ledger.finished }
      else ledger
  | .project isParsed =>
      { ledger with pipeline := { ledger.pipeline with projectionParsed := isParsed } }
  | .close =>
      { ledger with pipeline := { ledger.pipeline with queue := ledger.pipeline.queue.close } }
  | .stop => { ledger with pipeline := ledger.pipeline.stop }
  | .replaceStores stores => { ledger with pipeline := { ledger.pipeline with stores } }

def performAll (steps : List PipelineStep) (ledger : TaskLedger) : TaskLedger :=
  steps.foldl perform ledger

/-! ### What a mount does, as steps -/

/-- A pipeline that was started is one that was opened and replayed its log. -/
theorem pipeline_of_start {database after : Database} {pipeline : Pipeline}
    (started : Pipeline.start database = (.ok pipeline, after)) :
    ∃ stores, ((opened stores).performAll [.replay]).pipeline = pipeline := by
  have isOpen := Pipeline.isOpen_of_start started
  have readable := Pipeline.readable_of_start started
  simp only [Pipeline.start, Pipeline.load, Stores.load_of_open isOpen readable] at started
  refine ⟨Stores.loaded database, ?_⟩
  split at started
  · rename_i sent
    simp only [Prod.mk.injEq, Except.ok.injEq] at started
    rw [← started.1]
    exact congrArg Prod.snd sent
  · simp at started

def work (logged : LoggedTask) : List PipelineStep :=
  [.receive, .carryOut logged, .finish logged]

theorem pipeline_work {ledger : TaskLedger} {logged : LoggedTask} {rest : List LoggedTask}
    (waiting : ledger.pipeline.queue.channel = logged :: rest) :
    (ledger.performAll (work logged)).pipeline =
      { ledger.pipeline with
        queue := { ledger.pipeline.queue with channel := rest } }.process logged := by
  simp [performAll, work, perform, TaskQueue.receive, waiting, Pipeline.process_eq_finish]

/-- Draining a queue is the work of one worker on one task after the other. -/
theorem pipeline_drain (ledger : TaskLedger) :
    (ledger.performAll (ledger.pipeline.queue.channel.flatMap work)).pipeline =
      ledger.pipeline.drain := by
  unfold Pipeline.drain
  generalize waiting : ledger.pipeline.queue.channel = tasks
  induction tasks generalizing ledger with
  | nil =>
      have empty : { ledger.pipeline.queue with channel := [] } = ledger.pipeline.queue := by
        rw [← waiting]
      rw [empty]
      rfl
  | cons logged rest ih =>
      have worked := pipeline_work waiting
      have left : (ledger.performAll (work logged)).pipeline.queue.channel = rest := by
        rw [worked, Schedule.channel_process]
      rw [List.flatMap_cons, performAll, List.foldl_append, ← performAll, ← performAll, ih _ left,
        worked, ← Schedule.process_setChannel]
      rfl

/-! ### The account -/

/-- The number of the queue is that of the tasks that were sent and are not finished, and each of
these is at one place at most. A task is nowhere if nobody was left to receive it. -/
structure Balanced (ledger : TaskLedger) : Prop where
  counted : ledger.pipeline.queue.pending + ledger.finished.length = ledger.sent.length
  placed : ∀ logged,
    ledger.pipeline.queue.channel.count logged + ledger.received.count logged +
      ledger.carriedOut.count logged + ledger.finished.count logged ≤ ledger.sent.count logged

theorem balanced_opened (stores : Stores) : (opened stores).Balanced :=
  ⟨rfl, fun _ => Nat.le_refl 0⟩

variable {ledger : TaskLedger}

theorem Balanced.finished_subperm (balanced : ledger.Balanced) :
    ledger.finished.Subperm ledger.sent := by
  rw [List.subperm_iff_count]
  intro logged
  have placed := balanced.placed logged
  omega

/-- The queue counts the tasks that are not reported yet. -/
theorem Balanced.pending_pos (balanced : ledger.Balanced) {logged : LoggedTask}
    (done : logged ∈ ledger.carriedOut) : 0 < ledger.pipeline.queue.pending := by
  -- The task is at a place of its own, so one more than the finished ones was sent.
  have more : (logged :: ledger.finished).Subperm ledger.sent := by
    rw [List.subperm_iff_count]
    intro other
    have placed := balanced.placed other
    rw [List.count_cons]
    split
    · rename_i same
      have once := List.count_pos_iff.mpr done
      rw [beq_iff_eq] at same
      subst same
      omega
    · omega
  have shorter := more.length_le
  have counted := balanced.counted
  rw [List.length_cons] at shorter
  omega

theorem Balanced.drained_iff (balanced : ledger.Balanced) :
    ledger.pipeline.queue.pending = 0 ↔ ledger.finished.Perm ledger.sent := by
  have counted := balanced.counted
  constructor
  · intro drained
    exact balanced.finished_subperm.perm_of_length_le (by omega)
  · intro same
    have lengths := same.length_eq
    omega

theorem Balanced.send (balanced : ledger.Balanced) {pipeline : Pipeline} {tasks : List LoggedTask}
    (sent : pipeline.queue = ledger.pipeline.queue.extend tasks) :
    ({ ledger with pipeline, sent := ledger.sent ++ tasks } : TaskLedger).Balanced := by
  constructor
  · have counted := balanced.counted
    simp only [sent, TaskQueue.extend, List.length_append]
    omega
  · intro logged
    have placed := balanced.placed logged
    simp only [sent, TaskQueue.extend, List.count_append]
    omega

/-- Tasks may be lost from the channel, but never from the count. -/
theorem Balanced.lose (balanced : ledger.Balanced) {pipeline : Pipeline}
    (same : pipeline.queue.pending = ledger.pipeline.queue.pending)
    (fewer : pipeline.queue.channel.Sublist ledger.pipeline.queue.channel) :
    ({ ledger with pipeline } : TaskLedger).Balanced := by
  constructor
  · rw [same]
    exact balanced.counted
  · intro logged
    have placed := balanced.placed logged
    have less := fewer.count_le logged
    dsimp only
    omega

theorem Balanced.receive (balanced : ledger.Balanced) : (ledger.perform .receive).Balanced := by
  simp only [perform, TaskQueue.receive]
  cases waiting : ledger.pipeline.queue.channel with
  | nil => exact ⟨balanced.counted, by simpa [waiting] using balanced.placed⟩
  | cons first rest =>
      refine ⟨balanced.counted, ?_⟩
      intro logged
      have placed := balanced.placed logged
      simp only [waiting, List.count_cons, List.count_append, Option.toList_some,
        List.count_nil] at placed ⊢
      omega

theorem Balanced.carryOut (balanced : ledger.Balanced) (logged : LoggedTask) :
    (ledger.perform (.carryOut logged)).Balanced := by
  rw [perform]
  split
  · rename_i received
    constructor
    · simpa using balanced.counted
    · intro other
      have placed := balanced.placed other
      have moved := (List.perm_cons_erase received).count_eq other
      simp only [Pipeline.queue_carryOut, List.count_cons] at moved ⊢
      omega
  · exact balanced

theorem Balanced.finish (balanced : ledger.Balanced) (logged : LoggedTask) :
    (ledger.perform (.finish logged)).Balanced := by
  rw [perform]
  split
  · rename_i done
    constructor
    · have counted := balanced.counted
      have counts := balanced.pending_pos done
      simp only [Pipeline.finish, TaskQueue.finish, List.length_cons]
      omega
    · intro other
      have placed := balanced.placed other
      have moved := (List.perm_cons_erase done).count_eq other
      simp only [Pipeline.finish, TaskQueue.finish, List.count_cons] at moved ⊢
      omega
  · exact balanced

theorem Balanced.perform (balanced : ledger.Balanced) (step : PipelineStep) :
    (ledger.perform step).Balanced := by
  cases step with
  | enqueue task => exact balanced.send (Pipeline.queue_enqueue task ledger.pipeline)
  | event event => exact balanced.send (Pipeline.queue_receiveEvent event ledger.pipeline)
  | replay => exact balanced.send (Pipeline.queue_replay ledger.pipeline)
  | receive => exact balanced.receive
  | carryOut logged => exact balanced.carryOut logged
  | finish logged => exact balanced.finish logged
  | project isParsed => exact balanced.lose rfl (List.Sublist.refl _)
  | close => exact balanced.lose rfl (List.nil_sublist _)
  | stop =>
      rw [TaskLedger.perform, Pipeline.stop]
      split
      · exact balanced.lose rfl (List.nil_sublist _)
      · exact balanced
  | replaceStores stores => exact balanced.lose rfl (List.Sublist.refl _)

theorem Balanced.performAll (balanced : ledger.Balanced) (steps : List PipelineStep) :
    (ledger.performAll steps).Balanced :=
  List.foldlRecOn steps _ (motive := Balanced) balanced fun _ kept step _ => kept.perform step

/-- In every run the queue counts the tasks that were sent and are not finished, and each report of
a worker lowers the count by one. So whatever a mount over the pipeline is like otherwise, it says
that the lock is granted or available exactly if it is ready, the placeholders reflect the index,
every task that was accepted or replayed has been carried out, and nobody else has the lock. -/
theorem lock_granted_iff_drained (stores : Stores) (steps : List PipelineStep) :
    let ledger := performAll steps (opened stores)
    let pending := ledger.pipeline.queue.pending
    ledger.finished.Subperm ledger.sent ∧
    pending + ledger.finished.length = ledger.sent.length ∧
    (∀ logged ∈ ledger.carriedOut,
      (ledger.perform (.finish logged)).pipeline.queue.pending + 1 = pending) ∧
    ∀ (daemon : Daemon) (requester : Requester),
      let mount := daemon.attach ledger.pipeline
      let answer := (mount.lock.request mount.state mount.denial requester).1
      let drained := mount.state = .ready ∧ ledger.pipeline.projectionParsed = true ∧
        ledger.finished.Perm ledger.sent
      (answer.result = .acquired ↔ drained ∧ requester.checkAvailabilityOnly = false ∧
        mount.lock.OpenTo requester.pid) ∧
      (answer.result = .available ↔ drained ∧ requester.checkAvailabilityOnly = true ∧
        mount.lock.owner? = none) := by
  intro ledger pending
  have balanced : ledger.Balanced := (balanced_opened stores).performAll steps
  refine ⟨balanced.finished_subperm, balanced.counted, ?_, ?_⟩
  · intro logged done
    have counts := balanced.pending_pos done
    rw [perform, if_pos done]
    simp only [Pipeline.finish, TaskQueue.finish]
    omega
  · intro daemon requester mount answer drained
    have allowed : mount.denial = none ↔
        ledger.pipeline.projectionParsed = true ∧ ledger.finished.Perm ledger.sent := by
      rw [← balanced.drained_iff]
      exact ledger.pipeline.denial_eq_none_iff
    constructor
    · rw [LockArbiter.request_acquired_iff, allowed]
      tauto
    · rw [LockArbiter.request_available_iff, allowed]
      tauto

/-- A task that was carried out keeps the lock from a process until it is reported. -/
theorem lock_granted_after_report :
    let git : Requester := ⟨7, false, false, "git status", ""⟩
    let ready : Daemon := { Daemon.mounting ⟨"", "", "", none⟩ with state := .ready }
    let stores := Stores.loaded ⟨.empty, .start ⟨1, 1⟩⟩
    let task : Task := .change (.fileCreated "a")
    let steps : List PipelineStep :=
      [.project true, .enqueue task, .receive, .carryOut ⟨1, task⟩]
    let answer := fun steps =>
      let mount := ready.attach (performAll steps (opened stores)).pipeline
      (mount.lock.request mount.state mount.denial git).1.result
    answer steps ≠ .acquired ∧ answer (steps ++ [.finish ⟨1, task⟩]) = .acquired := by
  intro git ready stores task steps answer
  have granted_iff : ∀ steps, answer steps = .acquired ↔
      (ready.state = .ready ∧
        (performAll steps (opened stores)).pipeline.projectionParsed = true ∧
        (performAll steps (opened stores)).finished.Perm
          (performAll steps (opened stores)).sent) ∧
      git.checkAvailabilityOnly = false ∧ ready.lock.OpenTo git.pid :=
    fun steps => ((lock_granted_iff_drained stores steps).2.2.2 ready git).1
  constructor
  · rw [ne_eq, granted_iff]
    decide +kernel
  · rw [granted_iff]
    decide +kernel

end TaskLedger

end Enlistment
