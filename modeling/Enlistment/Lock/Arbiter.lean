import Enlistment.Control.LockAnswer
import Enlistment.Mount.State

/-!
The lock on the working directory. At most one holder has it: the mount, or a process that asked
for it. A process that has the lock may take it again. Processes that took the lock by a request
are watched, and lose it at the first tick that finds them gone.
-/

namespace Enlistment

inductive LockHolder where
  | mount
  | process (requester : Control.Requester)
deriving DecidableEq

structure LockArbiter where
  holder : Option LockHolder
  sessionId : Option String
  watched : List Nat
deriving DecidableEq

namespace LockArbiter

open Control

def free : LockArbiter :=
  ⟨none, none, []⟩

def stillStarting : String := "Waiting for the mount to finish starting"

def heldByMount : String := "Waiting for the mount to release the lock"

def process? (arbiter : LockArbiter) : Option Requester :=
  match arbiter.holder with
  | some (.process requester) => some requester
  | _ => none

def isFree (arbiter : LockArbiter) : Bool :=
  arbiter.holder.isNone

def setSession (id : String) (arbiter : LockArbiter) : LockArbiter :=
  { arbiter with sessionId := if id.isEmpty then none else some id }

def clearSession (arbiter : LockArbiter) : LockArbiter :=
  { arbiter with sessionId := none }

structure Attempt where
  acquired : Bool
  holder : Option Requester
deriving DecidableEq

def tryAcquire (state : MountState) (requester : Requester) (arbiter : LockArbiter) :
    Attempt × LockArbiter :=
  if state ≠ .ready then (⟨false, none⟩, arbiter)
  else
    match arbiter.holder with
    | some .mount => (⟨false, none⟩, arbiter)
    | some (.process current) =>
        if current.pid = requester.pid then
          (⟨true, none⟩,
            setSession requester.sessionId { arbiter with holder := some (.process requester) })
        else (⟨false, some current⟩, arbiter)
    | none =>
        (⟨true, none⟩,
          setSession requester.sessionId { arbiter with holder := some (.process requester) })

def release (pid : Nat) (arbiter : LockArbiter) : Bool × LockArbiter :=
  match arbiter.holder with
  | some (.process current) =>
      if current.pid = pid then (true, clearSession { arbiter with holder := none })
      else (false, arbiter)
  | _ => (false, arbiter)

def acquireForMount (arbiter : LockArbiter) : Bool × LockArbiter :=
  match arbiter.holder with
  | some (.process _) => (false, arbiter)
  | _ => (true, { arbiter with holder := some .mount })

def releaseForMount (arbiter : LockArbiter) : LockArbiter :=
  match arbiter.holder with
  | some .mount => { arbiter with holder := none }
  | _ => arbiter

def clear (arbiter : LockArbiter) : LockArbiter :=
  clearSession { arbiter with holder := none }

def status (arbiter : LockArbiter) : String :=
  match arbiter.holder with
  | none => "Free"
  | some .mount => "Held by mount"
  | some (.process requester) => "Held by " ++ requester.display

def watch (pid : Nat) (arbiter : LockArbiter) : LockArbiter :=
  if arbiter.watched.contains pid then arbiter
  else { arbiter with watched := arbiter.watched ++ [pid] }

def unwatch (pid : Nat) (arbiter : LockArbiter) : LockArbiter :=
  { arbiter with watched := arbiter.watched.filter (· != pid) }

def availability (denial : Option String) (arbiter : LockArbiter) : LockAnswer :=
  if denial.isNone && arbiter.isFree then .ofResult .available
  else
    match arbiter.process?, denial with
    | some holder, _ => .heldBy holder
    | none, some reason => .denied reason
    | none, none => .denied heldByMount

def decide (denial : Option String) (requester : Requester) (arbiter : LockArbiter) :
    LockAnswer × LockArbiter :=
  match denial with
  | some reason => (.denied reason, arbiter)
  | none =>
      match arbiter.tryAcquire .ready requester with
      | (⟨true, _⟩, taken) => (.ofResult .acquired, taken.watch requester.pid)
      | (⟨false, some holder⟩, kept) => (.heldBy holder, kept)
      | (⟨false, none⟩, kept) => (.denied heldByMount, kept)

/-- Answers a request for the lock. The state of the mount is looked at first, then whether the
lock may be handed out, then who has it. -/
def request (state : MountState) (denial : Option String) (requester : Requester)
    (arbiter : LockArbiter) : LockAnswer × LockArbiter :=
  match state with
  | .unmounting => (.ofResult .unmountInProgress, arbiter)
  | .ready =>
      if requester.checkAvailabilityOnly then (arbiter.availability denial, arbiter)
      else arbiter.decide denial requester
  | _ => (.ofResult .mountNotReady, arbiter)

/-- One look at one watched process: it is no longer watched once it does not have the lock, and
it loses the lock once it is gone. -/
def check (isAlive : Nat → Bool) (arbiter : LockArbiter) (pid : Nat) : LockArbiter :=
  if (arbiter.process?.map (·.pid)) = some pid then
    if isAlive pid then arbiter else (arbiter.release pid).2.unwatch pid
  else arbiter.unwatch pid

def tick (isAlive : Nat → Bool) (arbiter : LockArbiter) : LockArbiter :=
  arbiter.watched.foldl (check isAlive) arbiter

end LockArbiter

end Enlistment
