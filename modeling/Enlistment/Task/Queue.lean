import Enlistment.Task.Log

/-!
The queue between events and workers. It counts the tasks that were sent and are not finished; a
task leaves the channel when a worker receives it, and the count when the worker is done with it.
-/

namespace Enlistment

inductive QueueError where
  | database (error : DatabaseError)
  | closed
deriving DecidableEq

def QueueError.message? : QueueError → Option String
  | database error => error.messageAfter "failed to log background task: "
  | closed => some "background queue receiver has been dropped"

structure TaskQueue where
  channel : List LoggedTask
  /-- Tasks that were sent and are not finished. -/
  pending : Nat
  isOpen : Bool
deriving DecidableEq

namespace TaskQueue

def empty : TaskQueue := ⟨[], 0, true⟩

def send (logged : LoggedTask) (queue : TaskQueue) : Except QueueError Unit × TaskQueue :=
  if queue.isOpen then
    (.ok (), { queue with channel := queue.channel ++ [logged], pending := queue.pending + 1 })
  else (.error .closed, queue)

def sendAll : List LoggedTask → TaskQueue → Except QueueError Unit × TaskQueue
  | [], queue => (.ok (), queue)
  | logged :: rest, queue =>
      match queue.send logged with
      | (.ok _, sent) => sendAll rest sent
      | (.error error, kept) => (.error error, kept)

def receive (queue : TaskQueue) : Option LoggedTask × TaskQueue :=
  match queue.channel with
  | logged :: rest => (some logged, { queue with channel := rest })
  | [] => (none, queue)

def finish (queue : TaskQueue) : TaskQueue :=
  { queue with pending := queue.pending - 1 }

/-- Nobody receives any more. What is in the channel is lost, but stays counted. -/
def close (queue : TaskQueue) : TaskQueue :=
  { queue with channel := [], isOpen := false }

def enqueue (task : Task) (queue : TaskQueue) (database : Database) :
    Except QueueError Unit × TaskQueue × Database :=
  match TaskLog.append task database with
  | (.error error, kept) => (.error (.database error), queue, kept)
  | (.ok id, logged) =>
      -- what cannot be sent stays in the log for the next run
      let (sent, after) := queue.send ⟨id, task⟩
      (sent, after, logged)

def replay (queue : TaskQueue) (database : Database) :
    Except (Failure QueueError) Nat × TaskQueue × Database :=
  match TaskLog.load database with
  | (.error failure, kept) => (.error (failure.map .database), queue, kept)
  | (.ok tasks, read) =>
      match sendAll tasks queue with
      | (.ok _, sent) => (.ok tasks.length, sent, read)
      | (.error error, kept) => (.error (.error error), kept, read)

end TaskQueue

end Enlistment
