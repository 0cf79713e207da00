import Enlistment.Control.Error
import Enlistment.Json.Value
import Enlistment.Json.Writer
import Enlistment.Mount.State

/-!
What a mount says of itself. A report is sent as one line of JSON, without a header.
-/

namespace Enlistment.Control

structure StatusReport where
  enlistmentRoot : String
  localCacheRoot : String
  repositoryUrl : String
  cacheServer : String
  lockStatus : String
  mountStatus : MountState
  diskLayoutVersion : String
  backgroundOperationCount : Nat
deriving DecidableEq

namespace StatusReport

def noCacheServer : String := "None"

def countBound : Nat := 0x10000000000000000

def fieldNames : List String :=
  ["enlistment_root", "local_cache_root", "repo_url", "cache_server", "lock_status",
    "mount_status", "disk_layout_version", "background_operation_count"]

def mountState? (value : Json) : Option MountState := do
  match WireCode.parse (← value.name?) with
  | .ok state => some state
  | .error _ => none

def ofJson? (value : Json) : Option StatusReport := do
  match ← value.fields? fieldNames with
  | [root, cacheRoot, url, server, lock, state, layout, count] =>
      pure {
        enlistmentRoot := ← root.text?
        localCacheRoot := ← cacheRoot.text?
        repositoryUrl := ← url.text?
        cacheServer := ← server.text?
        lockStatus := ← lock.text?
        mountStatus := ← mountState? state
        diskLayoutVersion := ← layout.text?
        backgroundOperationCount := ← count.naturalBelow? countBound
      }
  | _ => none

def fromLine (line : String) : Except ProtocolError StatusReport :=
  match (Json.parse line).bind ofJson? with
  | some report => .ok report
  | none => .error (.malformedBody .unreadable)

def members (report : StatusReport) : List (String × List Char) :=
  [("enlistment_root", Json.quote report.enlistmentRoot),
    ("local_cache_root", Json.quote report.localCacheRoot),
    ("repo_url", Json.quote report.repositoryUrl),
    ("cache_server", Json.quote report.cacheServer),
    ("lock_status", Json.quote report.lockStatus),
    ("mount_status", Json.quote report.mountStatus.name),
    ("disk_layout_version", Json.quote report.diskLayoutVersion),
    ("background_operation_count", Json.writeNatural report.backgroundOperationCount)]

def toLine (report : StatusReport) : String :=
  String.ofList (Json.writeObject report.members)

def toIndentedJson (report : StatusReport) : String :=
  String.ofList (Json.writeIndentedObject report.members)

end StatusReport

end Enlistment.Control
