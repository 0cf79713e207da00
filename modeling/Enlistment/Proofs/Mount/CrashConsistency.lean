import Enlistment.Proofs.Mount.Restart
import Enlistment.Proofs.Mount.Schedule

/-!
A crash loses no work and does none twice. What a world will come to is fixed by what is in its
store and by the tasks that are not logged yet: the effects, in order, of the tasks in the log and
of those that the log still has room for. No step and no crash changes it, and a world in which
nothing is left to do has come to it.
-/

namespace Enlistment

open Relation (ReflTransGen)

def Task.effects (tasks : List Task) (contents : Contents) : Contents :=
  tasks.foldl (fun contents task => task.effect contents) contents

namespace Tables

def room (tables : Tables) : Nat :=
  (lastPossibleTaskId - tables.lastTaskId).toNat

def outcome (unlogged : List Task) (tables : Tables) : Contents :=
  Task.effects (tables.loggedTasks ++ unlogged.take tables.room) tables.contents.seeded

theorem outcome_congr (left right : Tables) (tasks : left.tasks = right.tasks)
    (lastTaskId : left.lastTaskId = right.lastTaskId)
    (contents : left.contents.seeded = right.contents.seeded) (unlogged : List Task) :
    left.outcome unlogged = right.outcome unlogged := by
  simp only [outcome, loggedTasks, room, tasks, lastTaskId, contents]

theorem outcome_append {tables : Tables} (room : tables.lastTaskId < lastPossibleTaskId)
    (task : Task) (rest : List Task) :
    outcome rest { tables with
        tasks := tables.tasks ++ [LoggedTask.toRow ⟨tables.lastTaskId + 1, task⟩]
        lastTaskId := tables.lastTaskId + 1 } =
      tables.outcome (task :: rest) := by
  have fewer : tables.room = (lastPossibleTaskId - (tables.lastTaskId + 1)).toNat + 1 := by
    unfold Tables.room
    omega
  simp only [outcome, fewer, List.take_succ_cons, loggedTasks, List.filterMap_append,
    List.filterMap_cons, LoggedTask.ofRow_toRow, List.filterMap_nil, List.append_assoc]
  rfl

/-- What a pipeline can be started on. The ids are those of a table that gives each task an id of
its own, larger than all before. -/
structure Acceptable (tables : Tables) : Prop where
  known : tables.version ≤ Enlistment.schemaVersion
  numbered : tables.Numbered
  readable : ∃ logged, tables.Logs logged
  texts : tables.unreadablePaths = []

end Tables

namespace Schedule

namespace Process

def inHand (process : Process) : List LoggedTask :=
  (process.current.map (·.1)).toList ++ process.pipeline.queue.channel ++ process.unsent.toList

def Progress (process : Process) : Prop :=
  ∀ logged rest, process.current = some (logged, rest) →
    ∃ done, logged.task.steps = done ++ rest ∧ ∀ step ∈ done, step.Settled process.tables.contents

structure Sound (process : Process) : Prop where
  live : process.pipeline.stores.Live
  receiving : process.pipeline.queue.isOpen = true
  known : process.tables.version ≤ Enlistment.schemaVersion
  numbered : process.tables.Numbered
  logs : process.tables.Logs process.inHand
  progress : process.Progress
  texts : process.tables.unreadablePaths = []

theorem Sound.acceptable {process : Process} (sound : process.Sound) :
    process.tables.Acceptable := by
  exact ⟨sound.known, sound.numbered, ⟨_, sound.logs⟩, sound.texts⟩

theorem Sound.logs_of_working {process : Process} (sound : process.Sound) {logged : LoggedTask}
    {rest : List StoreStep} (working : process.current = some (logged, rest)) :
    process.tables.Logs
      (logged :: (process.pipeline.queue.channel ++ process.unsent.toList)) := by
  have logs := sound.logs
  simp only [inHand, working] at logs
  exact logs

theorem Sound.contents_seeded {process : Process} (sound : process.Sound) :
    process.tables.contents.seeded = process.tables.contents := by
  exact Contents.seeded_of_nonempty sound.live.tracked

end Process

namespace World

def Sound : World → Prop
  | down tables _ => tables.Acceptable
  | up process _ => process.Sound

def outcome (world : World) : Contents :=
  world.tables.outcome world.unlogged

theorem Sound.acceptable {world : World} (sound : world.Sound) : world.tables.Acceptable := by
  cases world with
  | down tables unlogged => exact sound
  | up process unlogged => exact Process.Sound.acceptable sound

end World

theorem tables_restarted {tables : Tables} {sizes : PoolSizes} {database : Database}
    (opened : Database.openOn sizes tables = .ok database) (logged : List LoggedTask) :
    (Process.started (.restarted database logged)).tables =
      Tables.withContents tables.contents.seeded
        { tables with version := Enlistment.schemaVersion } := by
  refine (ModifiedPathsStore.seed_eq database.tables).trans ?_
  rw [Database.tables_of_openOn opened]
  rfl

theorem sound_restarted {tables : Tables} (acceptable : tables.Acceptable) {sizes : PoolSizes}
    {database : Database} (opened : Database.openOn sizes tables = .ok database)
    {logged : List LoggedTask} (logs : tables.Logs logged) (unlogged : List Task) :
    World.Sound (.up (.started (.restarted database logged)) unlogged) ∧
      World.outcome (.up (.started (.restarted database logged)) unlogged) =
        tables.outcome unlogged := by
  have rows := tables_restarted opened logged
  refine ⟨⟨⟨?_, ?_, ?_⟩, rfl, ?_, ?_, ?_, ?_, ?_⟩, ?_⟩
  · exact (Pipeline.isShutDown_restarted database logged).trans (Database.isOpen_of_openOn opened)
  · have nonempty := tables.contents.seeded_ne_nil
    exact fun none => nonempty ((congrArg Tables.modifiedPaths rows).symm.trans none)
  · intro key
    exact (ModifiedPaths.hasKey_ofEntries _ _).trans (by
      rw [← ModifiedPathsStore.modifiedPaths_seed]
      rfl)
  · rw [rows]
    exact Int.le_refl _
  · rw [rows]
    exact ⟨acceptable.numbered.increasing, acceptable.numbered.bounded⟩
  · rw [rows]
    simp only [Process.inHand, Process.started, Pipeline.restarted, Option.map_none,
      Option.toList_none, List.nil_append, List.append_nil]
    exact logs
  · exact fun _ _ working => absurd working (by simp [Process.started])
  · rw [rows]
    exact acceptable.texts
  · rw [World.outcome, World.tables, rows]
    exact Tables.outcome_congr (Tables.withContents tables.contents.seeded
      { tables with version := Enlistment.schemaVersion }) tables rfl rfl
      tables.contents.seeded_seeded unlogged

theorem live_setDatabase {stores : Stores} (live : stores.Live) {tables : Tables}
    (same : tables.modifiedPaths = stores.database.tables.modifiedPaths) :
    Stores.Live { stores with database := ⟨tables, stores.database.pool.used⟩ } := by
  refine ⟨(Pool.isShutDown_used _).trans live.isOpen, ?_, ?_⟩
  · exact fun none => live.tracked (same.symm.trans none)
  · intro key
    exact (live.sameKeys key).trans (by rw [← same])

theorem sound_log {process : Process} {task : Task} {rest : List Task} {id : Int}
    {database : Database} (sound : process.Sound) (ready : process.unsent = none)
    (logged : TaskLog.append task process.database = (.ok id, database)) :
    World.Sound (.up { process with
        pipeline := process.pipeline.setDatabase database
        unsent := some ⟨id, task⟩ } rest) ∧
      database.tables.outcome rest = process.tables.outcome (task :: rest) ∧
      process.tables.lastTaskId ≤ database.tables.lastTaskId := by
  by_cases room : process.tables.lastTaskId < Tables.lastPossibleTaskId
  · have appended := TaskLog.append_of_room sound.live.isOpen room task
    obtain ⟨rfl, rfl⟩ : id = process.tables.lastTaskId + 1 ∧ database =
        ⟨{ process.tables with
            tasks := process.tables.tasks ++
              [LoggedTask.toRow ⟨process.tables.lastTaskId + 1, task⟩]
            lastTaskId := process.tables.lastTaskId + 1 }, process.database.pool.used⟩ := by
      have same := logged.symm.trans appended
      exact ⟨Except.ok.inj (congrArg Prod.fst same), congrArg Prod.snd same⟩
    refine ⟨⟨live_setDatabase sound.live rfl, sound.receiving, sound.known, ?_, ?_, ?_, sound.texts⟩,
      Tables.outcome_append room task rest, ?_⟩
    · have identified : ∀ id, (LoggedTask.toRow ⟨id, task⟩).id = id := fun _ => rfl
      exact sound.numbered.appendTask identified (Tables.appendTask_of_room room _)
    · have logs := sound.logs.append ⟨process.tables.lastTaskId + 1, task⟩
        (process.tables.lastTaskId + 1)
      simp only [Process.inHand, ready, Option.toList_none, List.append_nil] at logs
      exact logs
    · exact sound.progress
    · exact Int.le_of_lt (Int.lt_succ _)
  · rw [Process.database, TaskLog.append_of_full sound.live.isOpen room] at logged
    exact absurd (congrArg Prod.fst logged) (by simp)

theorem sound_refuse {process : Process} {task : Task} {unlogged : List Task}
    {error : DatabaseError} {database : Database} (sound : process.Sound)
    (refused : TaskLog.append task process.database = (.error error, database)) :
    World.Sound (.up { process with
        pipeline := process.pipeline.setDatabase database } unlogged) ∧
      database.tables = process.tables := by
  by_cases room : process.tables.lastTaskId < Tables.lastPossibleTaskId
  · rw [Process.database, TaskLog.append_of_room sound.live.isOpen room] at refused
    exact absurd (congrArg Prod.fst refused) (by simp)
  · obtain rfl : database = ⟨process.tables, process.database.pool.used⟩ :=
      (congrArg Prod.snd refused).symm.trans
        (congrArg Prod.snd (TaskLog.append_of_full sound.live.isOpen room task))
    exact ⟨⟨live_setDatabase sound.live rfl, sound.receiving, sound.known, sound.numbered,
      sound.logs, sound.progress, sound.texts⟩, rfl⟩

theorem sound_send {process : Process} {unlogged : List Task} {logged : LoggedTask}
    {queue : TaskQueue} (sound : process.Sound) (waiting : process.unsent = some logged)
    (sent : process.pipeline.queue.send logged = (.ok (), queue)) :
    World.Sound (.up { process with
      pipeline := { process.pipeline with queue }
      unsent := none } unlogged) := by
  simp only [TaskQueue.send, sound.receiving, if_true] at sent
  obtain rfl := (Prod.mk.inj sent).2
  refine ⟨sound.live, rfl, sound.known, sound.numbered, ?_, sound.progress, sound.texts⟩
  have logs := sound.logs
  simp only [Process.inHand, waiting, Option.toList_some] at logs
  simp only [Process.inHand, Option.toList_none, List.append_nil, ← List.append_assoc]
  exact logs

theorem sound_receive {process : Process} {unlogged : List Task} {logged : LoggedTask}
    {queue : TaskQueue} (sound : process.Sound) (idle : process.current = none)
    (received : process.pipeline.queue.receive = (some logged, queue)) :
    World.Sound (.up { process with
      pipeline := { process.pipeline with queue }
      current := some (logged, logged.task.steps) } unlogged) := by
  have logs := sound.logs
  cases channel : process.pipeline.queue.channel with
  | nil => simp [TaskQueue.receive, channel] at received
  | cons first rest =>
      simp only [TaskQueue.receive, channel, Prod.mk.injEq, Option.some.injEq] at received
      obtain ⟨rfl, rfl⟩ := received
      refine ⟨sound.live, sound.receiving, sound.known, sound.numbered, ?_, ?_, sound.texts⟩
      · simp only [Process.inHand, idle, channel, Option.map_none, Option.toList_none,
          List.nil_append] at logs
        exact logs
      · intro other steps working
        obtain ⟨rfl, rfl⟩ := Prod.mk.inj (Option.some.inj working)
        exact ⟨[], rfl, by simp⟩

theorem sound_write {process : Process} {unlogged : List Task} {logged : LoggedTask}
    {step : StoreStep} {rest : List StoreStep} {stores : Stores} (sound : process.Sound)
    (working : process.current = some (logged, step :: rest))
    (written : process.pipeline.stores.applyStep step = (.ok (), stores)) :
    World.Sound (.up { process with
        pipeline := { process.pipeline with stores }
        current := some (logged, rest) } unlogged) ∧
      stores.database.tables.outcome unlogged = process.tables.outcome unlogged := by
  obtain ⟨done, parts, settled⟩ := sound.progress logged (step :: rest) working
  obtain ⟨_, live, tables⟩ := sound.live.applyStep step
  rw [written] at live tables
  have rows : stores.database.tables =
      process.tables.withContents (step.effect process.tables.contents) := tables
  have logs := sound.logs_of_working working
  refine ⟨⟨live, sound.receiving, ?_, ?_, ?_, ?_, ?_⟩, ?_⟩
  · exact (congrArg Tables.version rows) ▸ sound.known
  · have numbered := sound.numbered
    constructor
    · exact (congrArg Tables.tasks rows) ▸ numbered.increasing
    · intro row member
      rw [Process.tables, Process.database, rows] at member ⊢
      exact numbered.bounded row member
  · rw [Process.tables, Process.database, rows]
    exact logs
  · intro other steps now
    obtain ⟨rfl, rfl⟩ := Prod.mk.inj (Option.some.inj now)
    refine ⟨done ++ [step], by simp [parts], ?_⟩
    rw [Process.tables, Process.database, rows]
    exact Task.settled_next parts settled
  · exact (congrArg Tables.unreadablePaths rows).trans sound.texts
  · have next := Task.effect_next parts settled
    have seeded : (process.tables.withContents
        (step.effect process.tables.contents)).contents.seeded =
          step.effect process.tables.contents :=
      Contents.seeded_of_nonempty (step.effect_ne_nil sound.live.tracked)
    have others : process.tables.loggedTasks = logged.task ::
        (process.pipeline.queue.channel ++ process.unsent.toList).map (·.task) :=
      logs.loggedTasks_eq
    have stillOthers : (process.tables.withContents
        (step.effect process.tables.contents)).loggedTasks = process.tables.loggedTasks := rfl
    have sameRoom : (process.tables.withContents
        (step.effect process.tables.contents)).room = process.tables.room := rfl
    rw [rows, Tables.outcome, Tables.outcome, seeded, sound.contents_seeded, stillOthers, sameRoom,
      others, List.cons_append, Task.effects, Task.effects, List.foldl_cons, List.foldl_cons, next]

theorem sound_finish {process : Process} {unlogged : List Task} {logged : LoggedTask}
    (sound : process.Sound) (working : process.current = some (logged, [])) :
    World.Sound (.up { process with
        pipeline :=
          ({ process.pipeline with
            invalidations := process.pipeline.invalidations + 1 }.deleteFromLog logged.id).finish
        current := none } unlogged) ∧
      ({ process.pipeline with
        invalidations := process.pipeline.invalidations + 1 }.deleteFromLog
          logged.id).stores.database.tables.outcome unlogged = process.tables.outcome unlogged := by
  obtain ⟨done, parts, settled⟩ := sound.progress logged [] working
  have logs := sound.logs_of_working working
  have fewer := logs.deleteTask_first sound.numbered
  have deleted := TaskLog.delete_of_open sound.live.isOpen logged.id
  simp only [World.Sound, Pipeline.finish, Pipeline.deleteFromLog, Pipeline.setDatabase, deleted]
  constructor
  · refine ⟨live_setDatabase sound.live rfl, sound.receiving, sound.known,
      sound.numbered.deleteTask logged.id, fewer, ?_, sound.texts⟩
    exact fun _ _ now => absurd now (by simp)
  · have nothing := Task.effect_of_settled parts settled
    have sameSeeded : (process.tables.deleteTask logged.id).contents.seeded =
        process.tables.contents.seeded := rfl
    have sameRoom : (process.tables.deleteTask logged.id).room = process.tables.room := rfl
    change (process.tables.deleteTask logged.id).outcome unlogged = _
    rw [Tables.outcome, Tables.outcome, sameSeeded, sound.contents_seeded, sameRoom,
      logs.loggedTasks_eq, fewer.loggedTasks_eq, List.map_cons, List.cons_append, Task.effects,
      Task.effects, List.foldl_cons, nothing]
    rfl

/-- A step keeps a sound world sound, and what it will come to; ids are never given back. -/
theorem sound_step {before after : World} (step : Step before after) (sound : before.Sound) :
    after.Sound ∧ after.outcome = before.outcome ∧
      before.tables.lastTaskId ≤ after.tables.lastTaskId := by
  cases step with
  | @start tables unlogged sizes database after pipeline opened started =>
      have acceptable : tables.Acceptable := sound
      obtain ⟨logged, logs⟩ := acceptable.readable
      have sameLogs : database.tables.Logs logged := by
        rw [Database.tables_of_openOn opened]
        exact logs
      have texts : database.tables.unreadablePaths = [] := by
        rw [Database.tables_of_openOn opened]
        exact acceptable.texts
      rw [Pipeline.start_of_logs (Database.isOpen_of_openOn opened) texts sameLogs] at started
      obtain rfl := Except.ok.inj (congrArg Prod.fst started)
      obtain ⟨still, same⟩ := sound_restarted acceptable opened logs unlogged
      refine ⟨still, same, ?_⟩
      simp only [World.tables, tables_restarted opened]
      exact Int.le_refl _
  | log ready logged => exact sound_log sound ready logged
  | refuse ready wanted refused =>
      obtain ⟨still, same⟩ := sound_refuse sound refused
      exact ⟨still, congrArg (Tables.outcome _) same,
        Int.le_of_eq (congrArg Tables.lastTaskId same.symm)⟩
  | send waiting sent => exact ⟨sound_send sound waiting sent, rfl, Int.le_refl _⟩
  | receive idle received => exact ⟨sound_receive sound idle received, rfl, Int.le_refl _⟩
  | @write process unlogged logged step rest stores working written =>
      obtain ⟨still, same⟩ := sound_write sound working written
      have rows := ((Process.Sound.live sound).applyStep step).2.2
      rw [written] at rows
      exact ⟨still, same, Int.le_of_eq (congrArg Tables.lastTaskId rows).symm⟩
  | @abandon process unlogged logged step rest error stores working failed =>
      have succeeded := ((Process.Sound.live sound).applyStep step).1
      rw [failed] at succeeded
      exact absurd succeeded (by simp)
  | @finish process unlogged logged working =>
      obtain ⟨still, same⟩ := sound_finish sound working
      have deleted := TaskLog.delete_of_open (Process.Sound.live sound).isOpen logged.id
      refine ⟨still, same, ?_⟩
      simp only [World.tables, Process.tables, Process.database, Pipeline.finish,
        Pipeline.deleteFromLog, Pipeline.setDatabase, deleted]
      exact Int.le_refl _

/-- A crash leaves a store on which the work can go on, and what it will come to. -/
theorem sound_crash {before after : World} (crash : Crash before after) (sound : before.Sound) :
    after.Sound ∧ after.outcome = before.outcome := by
  cases crash with
  | running => exact ⟨Process.Sound.acceptable sound, rfl⟩
  | @opening tables unlogged sizes database opened =>
      have acceptable : tables.Acceptable := sound
      rw [World.Sound, World.outcome, World.tables, Database.tables_of_openOn opened]
      exact ⟨⟨Int.le_refl _, ⟨acceptable.numbered.increasing, acceptable.numbered.bounded⟩,
        acceptable.readable, acceptable.texts⟩, rfl⟩
  | @loading tables unlogged sizes database after stores opened loaded =>
      have acceptable : tables.Acceptable := sound
      obtain ⟨logged, logs⟩ := acceptable.readable
      have texts : database.tables.unreadablePaths = [] := by
        rw [Database.tables_of_openOn opened]
        exact acceptable.texts
      rw [Stores.load_of_open (Database.isOpen_of_openOn opened) texts] at loaded
      obtain rfl := congrArg Prod.snd loaded
      obtain ⟨restarted, same⟩ := sound_restarted acceptable opened logs unlogged
      exact ⟨restarted.acceptable, same⟩

theorem sound_run {before after : World} (run : Run before after) (sound : before.Sound) :
    after.Sound ∧ after.outcome = before.outcome := by
  induction run with
  | refl => exact ⟨sound, rfl⟩
  | tail _ next ih =>
      rcases next with step | crash
      · obtain ⟨still, same, _⟩ := sound_step step ih.1
        exact ⟨still, same.trans ih.2⟩
      · obtain ⟨still, same⟩ := sound_crash crash ih.1
        exact ⟨still, same.trans ih.2⟩

end Schedule

end Enlistment
