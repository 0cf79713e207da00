import Enlistment.Proofs.Mount.Alike
import Enlistment.Proofs.Mount.CrashConsistency
import Enlistment.Proofs.Mount.Queueing

/-!
Events and the tasks that they become. An event that lies inside `.git` as a whole becomes none; any
other becomes one, which is the event itself, or what is seen of a rename from outside `.git`. So the
log, with what workers took up, is a record of the events as they are seen from outside, as far as
the log has ids for them.
-/

namespace Enlistment

open Enlistment.Path

namespace Change

def created (isFolder : Bool) (path : String) : Change :=
  if isFolder then .folderCreated path else .fileCreated path

def deleted (isFolder : Bool) (path : String) : Change :=
  if isFolder then .folderDeleted path else .fileDeleted path

def renamed (isFolder : Bool) (oldPath path : String) : Change :=
  if isFolder then .folderRenamed oldPath path else .fileRenamed oldPath path

end Change

namespace Event

def LiesInside (event : Event) : Prop :=
  ∀ path ∈ event.paths, isInsideDotGit path = true

instance (event : Event) : Decidable event.LiesInside :=
  inferInstanceAs (Decidable (∀ path ∈ event.paths, isInsideDotGit path = true))

def ownTask : Event → Task
  | changed change => .change change
  | placeholderCreated record _ => .placeholderCreated record

/-- What an event is from outside `.git`: itself, or the end of a rename that lies outside. -/
inductive SeenAs : Event → Task → Prop where
  | itself {event : Event} (outside : ∀ path ∈ event.paths, isInsideDotGit path = false) :
      SeenAs event event.ownTask
  | movedIn {isFolder : Bool} {oldPath path : String} (source : isInsideDotGit oldPath = false)
      (destination : isInsideDotGit path = true) :
      SeenAs (.changed (.renamed isFolder oldPath path)) (.change (.deleted isFolder oldPath))
  | movedOut {isFolder : Bool} {oldPath path : String} (source : isInsideDotGit oldPath = true)
      (destination : isInsideDotGit path = false) :
      SeenAs (.changed (.renamed isFolder oldPath path)) (.change (.created isFolder path))

@[simp]
theorem paths_renamed (isFolder : Bool) (oldPath path : String) :
    (changed (.renamed isFolder oldPath path)).paths = [oldPath, path] := by
  cases isFolder <;> rfl

@[simp]
theorem task?_renamed (isFolder : Bool) (oldPath path : String) :
    (changed (.renamed isFolder oldPath path)).task? =
      (Change.renameOutside isFolder oldPath path).map Task.change := by
  cases isFolder with
  | false => exact congrArg (Option.map Task.change) (Change.outside_fileRenamed oldPath path)
  | true => exact congrArg (Option.map Task.change) (Change.outside_folderRenamed oldPath path)

/-- An event names one path, which decides about it, or it is a rename. -/
theorem single_or_renamed (event : Event) :
    (∃ path, event.paths = [path] ∧
      event.task? = if isInsideDotGit path then none else some event.ownTask) ∨
    ∃ isFolder oldPath path, event = .changed (.renamed isFolder oldPath path) := by
  cases event with
  | placeholderCreated record process => exact .inl ⟨record.path, rfl, rfl⟩
  | changed change =>
      cases moved : change.oldPath? with
      | none =>
          refine .inl ⟨change.path, ?_, ?_⟩
          · rw [paths, Change.paths, moved]
            rfl
          · rw [task?, Change.outside_of_unmoved moved]
            by_cases inside : isInsideDotGit change.path = true
            · rw [if_pos inside, if_pos inside]
              rfl
            · rw [if_neg inside, if_neg inside]
              rfl
      | some oldPath =>
          cases change with
          | fileRenamed oldPath path => exact .inr ⟨false, oldPath, path, rfl⟩
          | folderRenamed oldPath path => exact .inr ⟨true, oldPath, path, rfl⟩
          | _ => contradiction

/-- An event becomes a task exactly if it does not lie inside `.git`, and then what it is seen as. -/
theorem inside_or_seen (event : Event) :
    event.LiesInside ∧ event.task? = none ∨
      ¬ event.LiesInside ∧ ∃ task, event.SeenAs task ∧ event.task? = some task := by
  rcases event.single_or_renamed with ⟨path, single, task⟩ | ⟨isFolder, oldPath, path, rfl⟩
  · rw [LiesInside, single, List.forall_mem_singleton, task]
    cases inside : isInsideDotGit path with
    | true => exact .inl ⟨rfl, rfl⟩
    | false =>
        refine .inr ⟨nofun, event.ownTask, .itself ?_, rfl⟩
        rw [single, List.forall_mem_singleton]
        exact inside
  · rw [LiesInside, paths_renamed, List.forall_mem_cons, List.forall_mem_singleton, task?_renamed,
      Change.renameOutside]
    cases source : isInsideDotGit oldPath <;> cases destination : isInsideDotGit path
    · refine .inr ⟨nofun, _, .itself ?_, rfl⟩
      rw [paths_renamed, List.forall_mem_cons, List.forall_mem_singleton]
      exact ⟨source, destination⟩
    · exact .inr ⟨nofun, _, .movedIn source destination, rfl⟩
    · exact .inr ⟨nofun, _, .movedOut source destination, rfl⟩
    · exact .inl ⟨⟨rfl, rfl⟩, rfl⟩

theorem SeenAs.task?_eq {event : Event} {task : Task} (seen : event.SeenAs task) :
    event.task? = some task := by
  cases seen with
  | itself outside =>
      rcases event.single_or_renamed with ⟨path, single, task⟩ | ⟨isFolder, oldPath, path, rfl⟩
      · rw [single, List.forall_mem_singleton] at outside
        rw [task, outside]
        rfl
      · rw [paths_renamed, List.forall_mem_cons, List.forall_mem_singleton] at outside
        rw [task?_renamed, Change.renameOutside, outside.1, outside.2]
        rfl
  | movedIn source destination =>
      rw [task?_renamed, Change.renameOutside, source, destination]
      rfl
  | movedOut source destination =>
      rw [task?_renamed, Change.renameOutside, source, destination]
      rfl

theorem seenAs_iff {event : Event} {task : Task} : event.SeenAs task ↔ event.task? = some task := by
  refine ⟨SeenAs.task?_eq, fun becomes => ?_⟩
  rcases event.inside_or_seen with ⟨_, none⟩ | ⟨_, other, seen, some⟩
  · exact absurd (none.symm.trans becomes) nofun
  · obtain rfl := Option.some.inj (some.symm.trans becomes)
    exact seen

theorem liesInside_iff {event : Event} : event.LiesInside ↔ event.task? = none := by
  rcases event.inside_or_seen with ⟨inside, none⟩ | ⟨outside, task, _, some⟩
  · exact iff_of_true inside none
  · exact iff_of_false outside (some.symm ▸ nofun)

/-- One after the other, the events that do not lie inside `.git` are seen as their tasks. -/
theorem forall₂_seenAs (events : List Event) :
    List.Forall₂ SeenAs (events.filter (¬ ·.LiesInside)) (events.filterMap task?) := by
  induction events with
  | nil => exact .nil
  | cons event rest ih =>
      rcases event.inside_or_seen with ⟨inside, none⟩ | ⟨outside, task, seen, some⟩
      · rw [List.filter_cons_of_neg (by simpa using inside), List.filterMap_cons_none none]
        exact ih
      · rw [List.filter_cons_of_pos (by simpa using outside), List.filterMap_cons_some some]
        exact .cons seen ih

end Event

def PipelineAction.event? : PipelineAction → Option Event
  | .receive event => some event
  | _ => none

namespace Pipeline

open Schedule (Process World)

variable {before between after pipeline : Pipeline}

def room (pipeline : Pipeline) : Nat :=
  pipeline.stores.database.tables.room

theorem room_pos_iff :
    0 < pipeline.room ↔
      pipeline.stores.database.tables.lastTaskId < Tables.lastPossibleTaskId := by
  rw [room, Tables.room]
  omega

/-- A pipeline came to be a sound one, while these tasks were taken up, and these were to be queued:
all of them were, as far as there were ids. -/
structure Advances (before after : Pipeline) (taken : List LoggedTask) (wanted : List Task) :
    Prop where
  sound : (Process.started after).Sound
  queued : ∃ queued : List LoggedTask,
    taken ++ after.queue.channel = before.queue.channel ++ queued ∧
      queued.map (·.task) = wanted.take before.room ∧
      after.lastTaskId = before.lastTaskId + queued.length

theorem Worked.advances {taken : List LoggedTask} (worked : Worked before after taken)
    (sound : (Process.started after).Sound) : Advances before after taken [] := by
  refine ⟨sound, [], ?_, List.take_nil.symm, ?_⟩
  · rw [worked.order, List.append_nil]
  · rw [worked.lastTaskId]
    exact (Int.add_zero _).symm

theorem Advances.trans {taken moreTaken : List LoggedTask} {wanted moreWanted : List Task}
    (first : Advances before between taken wanted)
    (second : Advances between after moreTaken moreWanted) :
    Advances before after (taken ++ moreTaken) (wanted ++ moreWanted) := by
  obtain ⟨queued, order, tasks, last⟩ := first.queued
  obtain ⟨moreQueued, moreOrder, moreTasks, moreLast⟩ := second.queued
  refine ⟨second.sound, queued ++ moreQueued, ?_, ?_, ?_⟩
  · rw [List.append_assoc, moreOrder, ← List.append_assoc, order, List.append_assoc]
  · have count : queued.length = min before.room wanted.length := by
      rw [← List.length_take, ← tasks, List.length_map]
    have left : between.room = before.room - queued.length := by
      simp only [room, Tables.room, lastTaskId] at last ⊢
      omega
    have same : moreWanted.take between.room = moreWanted.take (before.room - wanted.length) := by
      congr 1
      omega
    rw [List.map_append, tasks, moreTasks, List.take_append, same]
  · rw [moreLast, last, List.length_append]
    omega

/-- The log of a sound pipeline holds what is in its channel. -/
theorem logs_of_sound (sound : (Process.started pipeline).Sound) :
    pipeline.stores.database.tables.Logs pipeline.queue.channel := by
  have logs := sound.logs
  simp only [Process.inHand, Process.started, Option.map_none, Option.toList_none,
    List.nil_append, List.append_nil] at logs
  exact logs

theorem sound_enqueue (sound : (Process.started pipeline).Sound) (task : Task)
    (created : List (String × Nat)) :
    (Process.started ({ pipeline with created }.enqueue task).2).Sound := by
  have counted : (Process.started { pipeline with created }).Sound :=
    ⟨sound.live, sound.receiving, sound.known, sound.numbered, sound.logs, sound.progress,
      sound.texts⟩
  rcases append : TaskLog.append task pipeline.stores.database with ⟨error | id, kept⟩
  · rw [@Schedule.enqueue_of_refusal { pipeline with created } _ _ _ append]
    exact (@Schedule.sound_refuse _ _ [] _ _ counted append).1
  · have run := @Schedule.enqueue_run { pipeline with created } _ _ _ append sound.receiving []
    have queued : World.Sound (.up (.started { pipeline with created }) [task]) := counted
    exact (Schedule.sound_run run.run queued).1

theorem advances_enqueue (sound : (Process.started pipeline).Sound) (task : Task)
    (created : List (String × Nat)) :
    Advances pipeline ({ pipeline with created }.enqueue task).2 [] [task] := by
  refine ⟨sound_enqueue sound task created, ?_⟩
  rcases enqueue_cases task created pipeline with
    ⟨_, free, _, after, done, ⟨_, _, sent⟩ | ⟨closed, _⟩⟩ | ⟨_, after, done, alike, why⟩
  · have positive : pipeline.room = pipeline.room - 1 + 1 :=
      (Nat.sub_add_cancel (room_pos_iff.mpr free)).symm
    rw [done]
    refine ⟨[⟨pipeline.lastTaskId + 1, task⟩], congrArg TaskQueue.channel sent.queue, ?_,
      congrArg Tables.lastTaskId sent.tables⟩
    rw [positive, List.take_succ_cons, List.take_nil]
    rfl
  · exact absurd (sound.receiving.symm.trans closed) nofun
  · rcases why with ⟨_, down⟩ | ⟨_, full⟩
    · exact absurd (sound.live.isOpen.symm.trans down) nofun
    · have none : pipeline.room = 0 := Nat.eq_zero_of_not_pos (mt room_pos_iff.mp full)
      rw [done, none]
      exact ⟨[], by rw [alike.queue]; simp, rfl,
        (congrArg Tables.lastTaskId alike.tables).trans (Int.add_zero _).symm⟩

theorem advances_perform (sound : (Process.started pipeline).Sound) (action : PipelineAction) :
    Advances pipeline (pipeline.perform action) (pipeline.takenBy action)
      (action.event?.toList.filterMap Event.task?) := by
  cases action with
  | receive event =>
      simp only [perform, receiveEvent, takenBy, PipelineAction.event?, Option.toList_some,
        List.filterMap_cons, List.filterMap_nil]
      cases event.task? with
      | none => exact Worked.advances ⟨rfl, rfl, rfl⟩ sound
      | some task => exact advances_enqueue sound task _
  | work =>
      refine pipeline.worked_work.advances ?_
      simp only [perform, TaskQueue.receive]
      cases waiting : pipeline.queue.channel with
      | nil => exact sound
      | cons logged rest =>
          have run := Schedule.process_run pipeline none logged rest []
          rw [← waiting] at run
          have start : World.Sound (.up (.started pipeline) []) := sound
          exact (Schedule.sound_run run.run start).1
  | drain =>
      have start : World.Sound (.up (.started pipeline) []) := sound
      exact pipeline.worked_drain.advances
        (Schedule.sound_run (Schedule.drain_run pipeline []).run start).1
  | restart sizes =>
      have logs := logs_of_sound sound
      have known : pipeline.stores.database.tables.version ≤ schemaVersion := sound.known
      have opened := Database.openOn_of_known sizes known
      have restarted := (Schedule.sound_restarted sound.acceptable opened logs []).1
      simp only [perform, startOn_of_logs sizes known sound.texts logs]
      have last := congrArg Tables.lastTaskId
        (Schedule.tables_restarted opened pipeline.queue.channel)
      exact Worked.advances ⟨rfl, sound.receiving.symm, last⟩ restarted

theorem advances_performAll (sound : (Process.started pipeline).Sound)
    (actions : List PipelineAction) :
    Advances pipeline (pipeline.performAll actions) (pipeline.takenUp actions)
      ((actions.filterMap PipelineAction.event?).filterMap Event.task?) := by
  induction actions generalizing pipeline with
  | nil => exact Worked.advances ⟨rfl, rfl, rfl⟩ sound
  | cons action rest ih =>
      have step := advances_perform sound action
      have run := step.trans (ih step.sound)
      rw [← List.filterMap_append] at run
      have events : action.event?.toList ++ rest.filterMap PipelineAction.event? =
          (action :: rest).filterMap PipelineAction.event? := by
        cases action <;> rfl
      rw [events] at run
      exact run

theorem receiveEvent_of_inside {event : Event} (inside : event.LiesInside) :
    pipeline.receiveEvent event = (.ok (), pipeline) := by
  rw [receiveEvent, Event.liesInside_iff.mp inside]

theorem receiveEvent_of_seen {event : Event} {task : Task} (seen : event.SeenAs task)
    (reachable : pipeline.stores.database.isShutDown = false)
    (receives : pipeline.queue.isOpen = true) :
    (0 < pipeline.room → (pipeline.receiveEvent event).1 = .ok () ∧
      (pipeline.receiveEvent event).2.Alike (pipeline.withSent task)) ∧
    (pipeline.room = 0 →
      (pipeline.receiveEvent event).1 = .error (.database (.statement .full)) ∧
      (pipeline.receiveEvent event).2.Alike pipeline) := by
  simp only [receiveEvent, seen.task?_eq]
  rcases enqueue_cases task _ pipeline with
    ⟨_, free, _, after, done, ⟨_, rfl, sent⟩ | ⟨closed, _⟩⟩ |
      ⟨_, after, done, alike, ⟨_, down⟩ | ⟨rfl, full⟩⟩
  · rw [done]
    exact ⟨fun _ => ⟨rfl, sent⟩, fun none => absurd (room_pos_iff.mpr free) (none ▸ Nat.lt_irrefl 0)⟩
  · exact absurd (receives.symm.trans closed) (by decide)
  · exact absurd (reachable.symm.trans down) (by decide)
  · rw [done]
    exact ⟨fun free => absurd (room_pos_iff.mp free) full, fun _ => ⟨rfl, alike⟩⟩

/-- While the store can be reached and somebody receives, an event inside `.git` changes nothing, and
any other is seen as one task, which names no path inside `.git` and is logged and sent, unless no id
is left for it. From any start on, what was taken up and what is logged are in order the tasks that
were in the log and those that the events are seen as, as far as there were ids. -/
theorem events_become_tasks :
    (∀ (pipeline : Pipeline) (event : Event), pipeline.stores.database.isShutDown = false →
      pipeline.queue.isOpen = true →
      (event.LiesInside → pipeline.receiveEvent event = (.ok (), pipeline)) ∧
      (¬ event.LiesInside → ∃ task, (∀ other, event.SeenAs other ↔ other = task) ∧
        (∀ path ∈ task.paths, isInsideDotGit path = false) ∧
        (0 < pipeline.room → (pipeline.receiveEvent event).1 = .ok () ∧
          (pipeline.receiveEvent event).2.Alike (pipeline.withSent task)) ∧
        (pipeline.room = 0 →
          (pipeline.receiveEvent event).1 = .error (.database (.statement .full)) ∧
          (pipeline.receiveEvent event).2.Alike pipeline))) ∧
    ∀ (sizes : PoolSizes) (tables : Tables) (pipeline : Pipeline), tables.Numbered →
      startOn sizes tables = .ok pipeline → ∀ actions : List PipelineAction, ∃ tasks,
        List.Forall₂ Event.SeenAs
          ((actions.filterMap PipelineAction.event?).filter (¬ ·.LiesInside)) tasks ∧
        (pipeline.takenUp actions).map (·.task) ++
            (pipeline.performAll actions).stores.database.tables.loggedTasks =
          tables.loggedTasks ++ tasks.take tables.room := by
  constructor
  · intro pipeline event reachable receives
    refine ⟨receiveEvent_of_inside, fun outside => ?_⟩
    rcases event.inside_or_seen with ⟨inside, _⟩ | ⟨_, task, seen, becomes⟩
    · exact absurd inside outside
    · refine ⟨task, fun other => ?_, fun path named => (Event.paths_of_task becomes named).2,
        receiveEvent_of_seen seen reachable receives⟩
      rw [Event.seenAs_iff, becomes, Option.some.injEq, eq_comm]
  · intro sizes tables pipeline numbered started actions
    obtain ⟨known, readable, logged, logs, rfl⟩ := restarted_of_startOn started
    have opened := Database.openOn_of_known sizes known
    have acceptable : tables.Acceptable := ⟨known, numbered, ⟨logged, logs⟩, readable⟩
    have sound := (Schedule.sound_restarted acceptable opened logs []).1
    have final := advances_performAll sound actions
    obtain ⟨queued, order, tasks, _⟩ := final.queued
    have rows := Schedule.tables_restarted opened logged
    have room := congrArg Tables.room rows
    refine ⟨_, Event.forall₂_seenAs _, ?_⟩
    rw [(logs_of_sound final.sound).loggedTasks_eq, ← List.map_append, order, List.map_append, tasks,
      logs.loggedTasks_eq]
    exact congrArg (fun count => logged.map (·.task) ++ List.take count _) room

theorem rename_out_of_dotGit_becomes_creation :
    ((fresh ⟨1, 1⟩).receiveEvent (.changed (.fileRenamed ".git/draft" "notes"))).2.Alike
        ((fresh ⟨1, 1⟩).withSent (.change (.fileCreated "notes"))) ∧
      ∃ tasks, List.Forall₂ Event.SeenAs [.changed (.fileRenamed ".git/draft" "notes")] tasks ∧
        ((fresh ⟨1, 1⟩).takenUp [.receive (.changed (.fileRenamed ".git/draft" "notes")),
            .receive (.changed (.fileCreated ".git/HEAD")), .work]).map (·.task) ++
          ((fresh ⟨1, 1⟩).performAll [.receive (.changed (.fileRenamed ".git/draft" "notes")),
            .receive (.changed (.fileCreated ".git/HEAD")),
            .work]).stores.database.tables.loggedTasks =
          tasks.take Tables.empty.room := by
  obtain ⟨step, run⟩ := events_become_tasks
  constructor
  · obtain ⟨task, only, _, sent, _⟩ := (step (fresh ⟨1, 1⟩)
      (.changed (.fileRenamed ".git/draft" "notes")) rfl rfl).2 (by decide)
    obtain rfl := (only (.change (.fileCreated "notes"))).mp
      (@Event.SeenAs.movedOut false ".git/draft" "notes" (by decide) (by decide))
    exact (sent (by decide)).2
  · exact run ⟨1, 1⟩ .empty _ Tables.numbered_empty (startOn_empty _)
      [.receive (.changed (.fileRenamed ".git/draft" "notes")),
        .receive (.changed (.fileCreated ".git/HEAD")), .work]

def exhausted : Pipeline :=
  restarted ⟨{ Tables.empty with
    version := schemaVersion
    lastTaskId := Tables.lastPossibleTaskId }, .start ⟨1, 1⟩⟩ []

theorem outside_event_is_refused_without_id :
    exhausted.stores.database.isShutDown = false ∧ exhausted.queue.isOpen = true ∧
      ¬ (Event.changed (.fileCreated "notes")).LiesInside ∧
      (exhausted.receiveEvent (.changed (.fileCreated "notes"))).1 =
        .error (.database (.statement .full)) ∧
      (exhausted.receiveEvent (.changed (.fileCreated "notes"))).2.stores.database.tables =
        exhausted.stores.database.tables ∧
      (exhausted.receiveEvent (.changed (.fileCreated "notes"))).2.queue = exhausted.queue := by
  decide +kernel

end Pipeline

end Enlistment
