import Enlistment.Control.Error

/-!
Result codes and their spellings on the wire. Each kind of request has codes of its own.
-/

namespace Enlistment.Control

class WireCode (Code : Type) where
  all : List Code
  spelling : Code → String

def WireCode.parse {Code : Type} [WireCode Code] (text : String) : Except ProtocolError Code :=
  match (WireCode.all : List Code).find? (fun code => WireCode.spelling code == text) with
  | some code => .ok code
  | none => .error (.unknownResult text)

inductive UnmountResult where
  | notMounted
  | acknowledged
  | completed
  | alreadyUnmounting
  | unknownState
deriving DecidableEq, Repr

instance : WireCode UnmountResult where
  all := [.notMounted, .acknowledged, .completed, .alreadyUnmounting, .unknownState]
  spelling
    | .notMounted => "NotMounted"
    | .acknowledged => "Ack"
    | .completed => "Complete"
    | .alreadyUnmounting => "AlreadyUnmounting"
    | .unknownState => "UnknownState"

inductive DownloadObjectResult where
  | success
  | downloadFailed
  | invalidSha
  | mountNotReady
deriving DecidableEq, Repr

instance : WireCode DownloadObjectResult where
  all := [.success, .downloadFailed, .invalidSha, .mountNotReady]
  spelling
    | .success => "S"
    | .downloadFailed => "DF"
    | .invalidSha => "InvalidSHA"
    | .mountNotReady => "MountNotReady"

inductive ModifiedPathsResult where
  | success
  | invalidVersion
  | mountNotReady
  | unknownRequest
deriving DecidableEq, Repr

instance : WireCode ModifiedPathsResult where
  all := [.success, .invalidVersion, .mountNotReady, .unknownRequest]
  spelling
    | .success => "S"
    | .invalidVersion => "IV"
    | .mountNotReady => "MountNotReady"
    | .unknownRequest => "UnknownRequest"

inductive PostFetchResult where
  | queued
  | mountNotReady
deriving DecidableEq, Repr

instance : WireCode PostFetchResult where
  all := [.queued, .mountNotReady]
  spelling
    | .queued => "Queued"
    | .mountNotReady => "MountNotReady"

inductive AcquireLockResult where
  | acquired
  | available
  | denyMount
  | denyGit
  | unmountInProgress
  | mountNotReady
deriving DecidableEq, Repr

instance : WireCode AcquireLockResult where
  all := [.acquired, .available, .denyMount, .denyGit, .unmountInProgress, .mountNotReady]
  spelling
    | .acquired => "LockAcquired"
    | .available => "LockAvailable"
    | .denyMount => "DenyMount"
    | .denyGit => "DenyGit"
    | .unmountInProgress => "UnmountInProgress"
    | .mountNotReady => "MountNotReady"

inductive ReleaseLockResult where
  | released
  | mountNotReady
deriving DecidableEq, Repr

instance : WireCode ReleaseLockResult where
  all := [.released, .mountNotReady]
  spelling
    | .released => "LockReleased"
    | .mountNotReady => "MountNotReady"

end Enlistment.Control
