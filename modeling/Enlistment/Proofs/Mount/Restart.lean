import Enlistment.Mount.Pipeline
import Enlistment.Proofs.Task.Effect
import Enlistment.Proofs.Task.Rows

/-!
What a pipeline is once it was started on an open store: the paths are read, the attributes file
among them if there were none, and the tasks in the log are queued in their order.
-/

namespace Enlistment

namespace ModifiedPathsStore

theorem seed_eq (tables : Tables) :
    (seed tables).2 = tables.withContents tables.contents.seeded := by
  unfold seed Contents.seeded
  split
  · rename_i empty
    have none : tables.modifiedPaths = [] := List.isEmpty_iff.mp empty
    simp [Tables.contents, Tables.withContents, Tables.insertModifiedPath, none, Rows.put]
  · rename_i nonempty
    simp [Tables.contents, Tables.withContents, nonempty]

end ModifiedPathsStore

namespace Pipeline

def restarted (database : Database) (logged : List LoggedTask) : Pipeline :=
  { ofStores { Stores.loaded database with
      database := ⟨(ModifiedPathsStore.seed database.tables).2, database.pool.used.used⟩ } with
    queue := ⟨logged, logged.length, true⟩ }

@[simp]
theorem isShutDown_restarted (database : Database) (logged : List LoggedTask) :
    (restarted database logged).stores.database.isShutDown = database.isShutDown := by
  simp [restarted, ofStores, Database.isShutDown]

end Pipeline

theorem TaskQueue.sendAll_of_open (tasks : List LoggedTask) {queue : TaskQueue}
    (isOpen : queue.isOpen = true) :
    queue.sendAll tasks =
      (.ok (), { queue with
        channel := queue.channel ++ tasks
        pending := queue.pending + tasks.length }) := by
  induction tasks generalizing queue with
  | nil => simp [sendAll]
  | cons logged rest ih =>
      have next := @ih ⟨queue.channel ++ [logged], queue.pending + 1, true⟩ rfl
      simp only [sendAll, send, isOpen, if_true, next]
      simp [Nat.add_comm, Nat.add_left_comm]

namespace Pipeline

theorem start_of_logs {database : Database} (isOpen : database.isShutDown = false)
    (readable : database.tables.unreadablePaths = []) {logged : List LoggedTask}
    (logs : database.tables.Logs logged) :
    start database =
      (.ok (restarted database logged), (restarted database logged).stores.database) := by
  have stillOpen : (Stores.loaded database).database.isShutDown = false := by
    simpa using isOpen
  have seeded : (Stores.loaded database).database.tables.Logs logged := by
    simp only [Stores.loaded, ModifiedPathsStore.seed_eq]
    exact logs
  have read := TaskLog.load_of_logs stillOpen seeded
  have sent : TaskQueue.empty.sendAll logged = (.ok (), ⟨logged, logged.length, true⟩) := by
    rw [TaskQueue.sendAll_of_open logged rfl]
    simp [TaskQueue.empty]
  have replayed : (ofStores (Stores.loaded database)).replay =
      (.ok logged.length, restarted database logged) := by
    simp only [replay, TaskQueue.replay, ofStores, read, sent]
    rfl
  simp only [start, load, Stores.load_of_open isOpen readable, replayed]

theorem isOpen_of_start {database after : Database} {pipeline : Pipeline}
    (started : start database = (.ok pipeline, after)) : database.isShutDown = false := by
  cases state : database.isShutDown with
  | false => rfl
  | true =>
      simp [start, load, Stores.load, ModifiedPathsStore.load_of_shutDown state] at started

theorem readable_of_start {database after : Database} {pipeline : Pipeline}
    (started : start database = (.ok pipeline, after)) : database.tables.unreadablePaths = [] := by
  rcases Stores.load_cases database with ⟨_, readable, _⟩ | ⟨error, kept, failed, _⟩
  · exact readable
  · simp [start, load, failed] at started

theorem logs_of_start {database after : Database} {pipeline : Pipeline}
    (started : start database = (.ok pipeline, after)) :
    ∃ logged, database.tables.Logs logged := by
  have isOpen := isOpen_of_start started
  have readable := readable_of_start started
  have stillOpen : (Stores.loaded database).database.isShutDown = false := by
    simpa using isOpen
  simp only [start, load, Stores.load_of_open isOpen readable, replay, TaskQueue.replay, ofStores]
    at started
  cases read : TaskLog.load (Stores.loaded database).database with
  | mk answer kept =>
      cases answer with
      | error error => simp [read] at started
      | ok logged =>
          have logs := TaskLog.logs_of_load stillOpen (congrArg Prod.fst read)
          simp only [Stores.loaded, ModifiedPathsStore.seed_eq] at logs
          exact ⟨logged, logs⟩

end Pipeline

end Enlistment
