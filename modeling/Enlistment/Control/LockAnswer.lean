import Enlistment.Control.Message
import Enlistment.Control.Requester
import Enlistment.Control.ResultCode

/-!
The answer to a request for the lock. A denial names the process that holds the lock, or says in
words why the mount keeps it.
-/

namespace Enlistment.Control

structure LockAnswer where
  result : AcquireLockResult
  holder : Option Requester
  denial : Option String
deriving DecidableEq

namespace LockAnswer

def ofResult (result : AcquireLockResult) : LockAnswer :=
  ⟨result, none, none⟩

def heldBy (holder : Requester) : LockAnswer :=
  ⟨.denyGit, some holder, none⟩

def denied (reason : String) : LockAnswer :=
  ⟨.denyMount, none, some reason⟩

def toMessage (answer : LockAnswer) : Message :=
  let body :=
    match answer.holder, answer.denial with
    | some holder, _ => some holder.toBody
    | none, denial => denial
  ⟨WireCode.spelling answer.result, body⟩

def fromMessage (message : Message) : Except ProtocolError LockAnswer := do
  let result : AcquireLockResult ← WireCode.parse message.header
  match result with
  | .denyGit =>
      match Requester.fromBody message.body with
      | some holder => pure (heldBy holder)
      | none => throw (.malformedBody .missingHolder)
  | .denyMount => pure ⟨.denyMount, none, message.body⟩
  | other => pure (ofResult other)

end LockAnswer

end Enlistment.Control
