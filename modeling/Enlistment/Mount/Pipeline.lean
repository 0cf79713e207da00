import Enlistment.Mount.State
import Enlistment.Task.Apply
import Enlistment.Task.Event
import Enlistment.Task.Queue

/-!
The services behind a mount: the stores, the queue of tasks that change them, and the worker that
takes tasks from the queue in their order. Events only queue tasks; the worker applies them, and
deletes them from the log once they were applied.
-/

namespace Enlistment

structure Pipeline where
  stores : Stores
  queue : TaskQueue
  projectionParsed : Bool
  created : List (String × Nat)
  invalidations : Nat
  isRunning : Bool
deriving DecidableEq

structure Heartbeat where
  placeholderCount : Option Nat
  modifiedPathsCount : Nat
  backgroundOperationCount : Nat
  placeholdersCreated : List (String × Nat)
deriving DecidableEq

inductive MountError where
  | bind
  | database (error : DatabaseError)
  | queue (error : QueueError)
  | transition (error : MountState.TransitionError)
deriving DecidableEq

def MountError.message? : MountError → Option String
  | bind => none
  | database error => error.messageAfter "database error: "
  | queue error => error.message?.map ("background queue error: " ++ ·)
  | transition error => some error.message

namespace Pipeline

def parsingProjection : String :=
  "Waiting for the mount to parse index and update placeholder files"

def queueNotDrained : String := "Waiting for the mount to release the lock"

def ofStores (stores : Stores) : Pipeline :=
  ⟨stores, .empty, false, [], 0, true⟩

def load (database : Database) : Except DatabaseError Pipeline × Database :=
  match Stores.load database with
  | (.ok stores, after) => (.ok (ofStores stores), after)
  | (.error error, after) => (.error error, after)

def setDatabase (database : Database) (pipeline : Pipeline) : Pipeline :=
  { pipeline with stores := { pipeline.stores with database } }

def enqueue (task : Task) (pipeline : Pipeline) : Except QueueError Unit × Pipeline :=
  let (answer, queue, database) := pipeline.queue.enqueue task pipeline.stores.database
  (answer, { pipeline.setDatabase database with queue })

def replay (pipeline : Pipeline) : Except (Failure QueueError) Nat × Pipeline :=
  let (answer, queue, database) := pipeline.queue.replay pipeline.stores.database
  (answer, { pipeline.setDatabase database with queue })

def countFor (process : String) : List (String × Nat) → List (String × Nat)
  | [] => [(process, 1)]
  | (name, count) :: rest =>
      if name = process then (name, count + 1) :: rest else (name, count) :: countFor process rest

/-- Queues the task that follows from an event. A placeholder is counted for its process whether or
not its task can be queued. -/
def receiveEvent (event : Event) (pipeline : Pipeline) : Except QueueError Unit × Pipeline :=
  match event.task? with
  | none => (.ok (), pipeline)
  | some task =>
      let created :=
        match event.process? with
        | some process => countFor process pipeline.created
        | none => pipeline.created
      { pipeline with created }.enqueue task

def denial (pipeline : Pipeline) : Option String :=
  if !pipeline.projectionParsed then some parsingProjection
  else if 0 < pipeline.queue.pending then some queueNotDrained
  else none

def apply (task : Task) (pipeline : Pipeline) : Except ApplyError Unit × Pipeline :=
  match pipeline.stores.apply task with
  | (.ok _, stores) => (.ok (), { pipeline with stores, invalidations := pipeline.invalidations + 1 })
  | (.error error, stores) => (.error error, { pipeline with stores })

def deleteFromLog (id : Int) (pipeline : Pipeline) : Pipeline :=
  pipeline.setDatabase (TaskLog.delete id pipeline.stores.database).2

def finish (pipeline : Pipeline) : Pipeline :=
  { pipeline with queue := pipeline.queue.finish }

/-- What a worker does with a task that it received. A task that could not be applied stays in the
log. -/
def process (logged : LoggedTask) (pipeline : Pipeline) : Pipeline :=
  match pipeline.apply logged.task with
  | (.ok _, after) => (after.deleteFromLog logged.id).finish
  | (.error _, after) => after.finish

def processAll (tasks : List LoggedTask) (pipeline : Pipeline) : Pipeline :=
  tasks.foldl (fun pipeline logged => pipeline.process logged) pipeline

def drain (pipeline : Pipeline) : Pipeline :=
  { pipeline with queue := { pipeline.queue with channel := [] } }.processAll pipeline.queue.channel

def heartbeat (pipeline : Pipeline) : Heartbeat × Pipeline :=
  let (count, used) := pipeline.stores.placeholders.count
  ({ placeholderCount := count.toOption
     modifiedPathsCount := pipeline.stores.paths.count
     backgroundOperationCount := pipeline.queue.pending
     placeholdersCreated := pipeline.created },
    { pipeline with stores := pipeline.stores.setPlaceholders used, created := [] })

def start (database : Database) : Except (Failure MountError) Pipeline × Database :=
  match load database with
  | (.error error, after) => (.error (.error (.database error)), after)
  | (.ok loaded, _) =>
      match loaded.replay with
      | (.ok _, replayed) => (.ok replayed, replayed.stores.database)
      | (.error failure, stopped) => (.error (failure.map .queue), stopped.stores.database)

def stop (pipeline : Pipeline) : Pipeline :=
  if pipeline.isRunning then
    { pipeline.setDatabase pipeline.stores.database.shutDown with
      queue := pipeline.queue.close
      isRunning := false }
  else pipeline

end Pipeline

end Enlistment
