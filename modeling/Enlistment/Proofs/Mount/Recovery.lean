import Enlistment.Proofs.Mount.CrashConsistency

/-!
What comes after a crash. A mount that is started on what another one left does the tasks in the
log, then those that were not logged, and ends with the rows that a mount ends with that never
crashed.
-/

namespace Enlistment

open Relation (ReflTransGen)

namespace Pipeline

def enqueueAll (tasks : List Task) (pipeline : Pipeline) : Pipeline :=
  tasks.foldl (fun pipeline task => (pipeline.enqueue task).2) pipeline

def catchUp (tasks : List Task) (pipeline : Pipeline) : Pipeline :=
  (enqueueAll tasks pipeline.drain).drain

end Pipeline

namespace Schedule

theorem lastTaskId_run {before after : World} (run : CleanRun before after)
    (sound : before.Sound) : before.tables.lastTaskId ≤ after.tables.lastTaskId := by
  induction run with
  | refl => exact Int.le_refl _
  | tail earlier step ih =>
      have still := (sound_run (CleanRun.run earlier) sound).1
      exact Int.le_trans ih (sound_step step still).2.2

theorem contents_of_finished {world : World} (sound : world.Sound) (finished : world.Finished) :
    world.tables.contents = world.outcome ∧ world.tables.tasks = [] := by
  cases world with
  | down tables unlogged => exact finished.elim
  | up process unlogged =>
      have upright : process.Sound := sound
      obtain ⟨unsent, current, channel, refused⟩ := finished
      have logs := upright.logs
      simp only [Process.inHand, unsent, current, channel, Option.map_none, Option.toList_none,
        List.append_nil] at logs
      have nothing : unlogged.take process.tables.room = [] := by
        by_cases room : process.tables.lastTaskId < Tables.lastPossibleTaskId
        · cases unlogged with
          | nil => exact List.take_nil
          | cons task rest =>
              have logged := TaskLog.append_of_room upright.live.isOpen room task
              exact absurd (congrArg Prod.fst logged) (refused task List.mem_cons_self _)
        · have full : process.tables.room = 0 := by
            unfold Tables.room
            omega
          rw [full, List.take_zero]
      refine ⟨?_, logs.tasks_eq_nil⟩
      rw [World.outcome, World.unlogged, World.tables, Tables.outcome, nothing, logs.loggedTasks_eq,
        upright.contents_seeded]
      rfl

theorem enqueueAll_refused_run {pipeline : Pipeline} {unlogged : List Task}
    (sound : World.Sound (.up (.started pipeline) unlogged))
    (full : ¬ pipeline.stores.database.tables.lastTaskId < Tables.lastPossibleTaskId)
    {tasks : List Task} (wanted : tasks ⊆ unlogged) :
    CleanRun (.up (.started pipeline) unlogged)
        (.up (.started (pipeline.enqueueAll tasks)) unlogged) ∧
      (pipeline.enqueueAll tasks).stores.database.tables = pipeline.stores.database.tables := by
  induction tasks generalizing pipeline with
  | nil => exact ⟨ReflTransGen.refl, rfl⟩
  | cons task rest ih =>
      have live : pipeline.stores.Live := Process.Sound.live sound
      have refused := TaskLog.append_of_full live.isOpen full task
      have next := enqueue_of_refusal refused
      have step := @Step.refuse (.started pipeline) task unlogged _ _ rfl
        (wanted List.mem_cons_self) refused
      have kept := sound_step step sound
      rw [Pipeline.enqueueAll, List.foldl_cons, next]
      obtain ⟨later, same⟩ := ih kept.1 full fun other member =>
        wanted (List.mem_cons_of_mem _ member)
      exact ⟨ReflTransGen.head step later, same⟩

/-- Queueing all tasks is a run, after which none is left or the log is full. -/
theorem enqueueAll_run {pipeline : Pipeline} {unlogged : List Task}
    (sound : World.Sound (.up (.started pipeline) unlogged)) :
    ∃ left, CleanRun (.up (.started pipeline) unlogged)
        (.up (.started (pipeline.enqueueAll unlogged)) left) ∧
      (left = [] ∨ ¬ (pipeline.enqueueAll unlogged).stores.database.tables.lastTaskId <
        Tables.lastPossibleTaskId) := by
  induction unlogged generalizing pipeline with
  | nil => exact ⟨[], ReflTransGen.refl, .inl rfl⟩
  | cons task rest ih =>
      by_cases room : pipeline.stores.database.tables.lastTaskId < Tables.lastPossibleTaskId
      · have logged := TaskLog.append_of_room (Process.Sound.live sound).isOpen room task
        have first := enqueue_run logged (Process.Sound.receiving sound) rest
        obtain ⟨left, later, ended⟩ := ih (sound_run (CleanRun.run first) sound).1
        exact ⟨left, ReflTransGen.trans first later, ended⟩
      · obtain ⟨run, same⟩ := enqueueAll_refused_run sound room (List.Subset.refl _)
        refine ⟨_, run, .inr ?_⟩
        rw [same]
        exact room

/-- On what any mount left, a start succeeds, and all that is left is done. -/
theorem catchUp_run {tables : Tables} (acceptable : tables.Acceptable) (unlogged : List Task)
    (sizes : PoolSizes) :
    ∃ database pipeline after, Database.openOn sizes tables = .ok database ∧
      Pipeline.start database = (.ok pipeline, after) ∧
      ∃ left, CleanRun (.down tables unlogged) (.up (.started (pipeline.catchUp unlogged)) left) ∧
        World.Finished (.up (.started (pipeline.catchUp unlogged)) left) := by
  obtain ⟨database, opened⟩ : ∃ database, Database.openOn sizes tables = .ok database :=
    ⟨_, Database.openOn_of_known sizes acceptable.known⟩
  obtain ⟨logged, logs⟩ := acceptable.readable
  have sameLogs : database.tables.Logs logged := by
    rw [Database.tables_of_openOn opened]
    exact logs
  have texts : database.tables.unreadablePaths = [] := by
    rw [Database.tables_of_openOn opened]
    exact acceptable.texts
  have started := Pipeline.start_of_logs (Database.isOpen_of_openOn opened) texts sameLogs
  refine ⟨database, .restarted database logged, _, opened, started, ?_⟩
  have drained := ReflTransGen.head (Step.start opened started)
    (drain_run (.restarted database logged) unlogged)
  have sound := (sound_run (CleanRun.run drained) acceptable).1
  obtain ⟨left, queued, ended⟩ := enqueueAll_run sound
  have stillSound := (sound_run (CleanRun.run queued) sound).1
  have done :=
    drain_run (Pipeline.enqueueAll unlogged (Pipeline.restarted database logged).drain) left
  have finalSound := (sound_run (CleanRun.run done) stillSound).1
  refine ⟨left, ReflTransGen.trans drained (ReflTransGen.trans queued done), rfl, rfl,
    channel_drain _, ?_⟩
  intro task member id
  rcases ended with none | full
  · rw [none] at member
    exact absurd member (by simp)
  · have higher := lastTaskId_run done stillSound
    have stillFull := fun room => full (Int.lt_of_le_of_lt higher room)
    have refused := TaskLog.append_of_full (Process.Sound.live finalSound).isOpen stillFull task
    intro appended
    exact absurd (appended.symm.trans (congrArg Prod.fst refused)) (by simp)

/-- Crash consistency. Let a mount be started on tables that it accepts, and tasks be logged, sent
and applied in any schedule, with crashes wherever something was written. Started once more, and
given the tasks that were not logged, it ends with the rows of any mount that did all its work and
never crashed, of which there is one; and no task is left in the log. -/
theorem crash_consistency {tables : Tables} (numbered : tables.Numbered) {sizes : PoolSizes}
    {database after : Database} {pipeline : Pipeline}
    (opened : Database.openOn sizes tables = .ok database)
    (started : Pipeline.start database = (.ok pipeline, after)) (tasks : List Task) :
    (∃ finished, CleanRun (.down tables tasks) finished ∧ finished.Finished) ∧
    ∀ finished, CleanRun (.down tables tasks) finished → finished.Finished →
      ∀ world, Run (.down tables tasks) world →
      ∀ newSizes, ∃ reopened restarted kept,
        Database.openOn newSizes world.tables = .ok reopened ∧
        Pipeline.start reopened = (.ok restarted, kept) ∧
        (restarted.catchUp world.unlogged).stores.database.tables.placeholders =
          finished.tables.placeholders ∧
        (restarted.catchUp world.unlogged).stores.database.tables.modifiedPaths =
          finished.tables.modifiedPaths ∧
        (restarted.catchUp world.unlogged).stores.database.tables.tasks = [] := by
  obtain ⟨logged, logs⟩ := Pipeline.logs_of_start started
  have texts := Pipeline.readable_of_start started
  rw [Database.tables_of_openOn opened] at logs texts
  have acceptable : tables.Acceptable :=
    ⟨Database.known_of_openOn opened, numbered, ⟨logged, logs⟩, texts⟩
  constructor
  · obtain ⟨_, _, _, _, _, left, run, finished⟩ := catchUp_run acceptable tasks sizes
    exact ⟨_, run, finished⟩
  · intro finished clean done world run newSizes
    have outcome := (contents_of_finished (sound_run clean.run acceptable).1 done).1.trans
      (sound_run clean.run acceptable).2
    obtain ⟨sound, same⟩ := sound_run run acceptable
    obtain ⟨reopened, restarted, kept, reopening, restart, left, recovery, recovered⟩ :=
      catchUp_run sound.acceptable world.unlogged newSizes
    obtain ⟨finalSound, finalSame⟩ := sound_run recovery.run sound.acceptable
    obtain ⟨contents, empty⟩ := contents_of_finished finalSound recovered
    have rows := contents.trans (finalSame.trans (same.trans outcome.symm))
    exact ⟨reopened, restarted, kept, reopening, restart, congrArg Contents.placeholders rows,
      congrArg Contents.modifiedPaths rows, empty⟩

theorem crash_consistency_of_interrupted_rename :
    ∃ crashed finished : World, Run (.down .empty
        [.change (.folderRenamed "src" "lib"), .change (.fileCreated "notes")]) crashed ∧
      crashed.tables.modifiedPaths = [".gitattributes", "src/"] ∧
      crashed.tables.tasks.length = 1 ∧
      crashed.unlogged = [.change (.fileCreated "notes")] ∧
      finished.Finished ∧
      ∃ reopened restarted kept, Database.openOn ⟨1, 1⟩ crashed.tables = .ok reopened ∧
        Pipeline.start reopened = (.ok restarted, kept) ∧
        (restarted.catchUp crashed.unlogged).stores.database.tables.modifiedPaths =
          finished.tables.modifiedPaths := by
  have opened := Database.openOn_of_known ⟨1, 1⟩
    (show Tables.empty.version ≤ schemaVersion by decide)
  have started := Pipeline.start_of_logs (Database.isOpen_of_openOn opened) rfl
    (show Tables.Logs _ [] from rfl)
  obtain ⟨⟨finished, clean, done⟩, recovers⟩ := crash_consistency Tables.numbered_empty opened
    started [.change (.folderRenamed "src" "lib"), .change (.fileCreated "notes")]
  have work : CleanRun (.down .empty
      [.change (.folderRenamed "src" "lib"), .change (.fileCreated "notes")]) _ :=
    .head (.start opened started) <| .head (.log rfl rfl) <| .head (.send rfl rfl) <|
      .head (.receive rfl rfl) <| .head (.write rfl rfl) <| .single (.write rfl rfl)
  have run := ReflTransGen.tail work.run (.inr .running)
  obtain ⟨reopened, restarted, kept, reopening, restart, _, same, _⟩ :=
    recovers finished clean done _ run ⟨1, 1⟩
  exact ⟨_, finished, run, by decide +kernel, by decide +kernel, rfl, done, reopened, restarted,
    kept, reopening, restart, same⟩

end Schedule

end Enlistment
