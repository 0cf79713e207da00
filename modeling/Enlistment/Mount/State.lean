import Enlistment.Control.ResultCode

/-!
The life of a mount. It starts as mounting, becomes ready or fails, and ends by unmounting; an
unmount that could not be carried out leads back to ready. When its process ends, the exit code says
how.
-/

namespace Enlistment

inductive MountState where
  | mounting
  | ready
  | unmounting
  | mountFailed
deriving DecidableEq, Repr

instance : Control.WireCode MountState where
  all := [.mounting, .ready, .unmounting, .mountFailed]
  spelling
    | .mounting => "Mounting"
    | .ready => "Ready"
    | .unmounting => "Unmounting"
    | .mountFailed => "MountFailed"

namespace MountState

def name (state : MountState) : String :=
  Control.WireCode.spelling state

def canBecome : MountState → MountState → Bool
  | mounting, ready => true
  | mounting, mountFailed => true
  | ready, unmounting => true
  | mountFailed, unmounting => true
  | unmounting, ready => true
  | _, _ => false

structure TransitionError where
  actual : MountState
  requested : MountState
deriving DecidableEq

def TransitionError.message (error : TransitionError) : String :=
  "cannot move mount from " ++ error.actual.name ++ " to " ++ error.requested.name

def transition (state requested : MountState) : Except TransitionError MountState :=
  if state.canBecome requested then .ok requested else .error ⟨state, requested⟩

end MountState

inductive ExitCode where
  | success
  | genericError
  | nullRequestData
deriving DecidableEq, Repr

namespace ExitCode

def value : ExitCode → Nat
  | success => 0
  | genericError => 3
  | nullRequestData => 5

end ExitCode

end Enlistment
