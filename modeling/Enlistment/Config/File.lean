import Enlistment.Store.Pool
import Enlistment.Toml.Document

/-!
The configuration file of a mount, in TOML. Every key may be missing, and keys that nobody knows are
skipped.
-/

namespace Enlistment

structure PoolSettings where
  sizes : PoolSizes
  /-- How long to wait for a connection, in milliseconds. -/
  acquireTimeout : Nat
deriving DecidableEq

def PoolSettings.standard : PoolSettings := ⟨⟨5, 16⟩, 50⟩

structure ConfigFile where
  socketPath : Option String
  repositoryUrl : Option String
  cacheServerUrl : Option String
  localCacheRoot : Option String
  gitObjectsRoot : Option String
  pool : PoolSettings
  /-- Seconds between heartbeats. -/
  heartbeatInterval : Option Nat
  backgroundWorkers : Option Nat
deriving DecidableEq

namespace ConfigFile

def empty : ConfigFile :=
  ⟨none, none, none, none, none, .standard, none, none⟩

def readText : Toml → Option String
  | .text value => some value
  | _ => none

def readNatural : Toml → Option Nat
  | .integer value => if 0 ≤ value then some value.toNat else none
  | _ => none

def optional {Value : Type} (read : Toml → Option Value) (key : String) (fields : Toml.Fields) :
    Option (Option Value) :=
  match fields.lookup key with
  | none => some none
  | some value => (read value).map some

def poolOfFields (fields : Toml.Fields) : Option PoolSettings := do
  let initial ← optional readNatural "initial_connections" fields
  let timeout ← optional readNatural "acquire_timeout_ms" fields
  let maxIdle ← optional readNatural "max_idle_connections" fields
  let standard := PoolSettings.standard
  pure ⟨⟨initial.getD standard.sizes.initial, maxIdle.getD standard.sizes.maxIdle⟩,
    timeout.getD standard.acquireTimeout⟩

def poolKeys : List String :=
  ["initial_connections", "acquire_timeout_ms", "max_idle_connections"]

def readPool : Toml → Option PoolSettings
  | .table _ fields => poolOfFields fields
  | .array items => poolOfFields (poolKeys.zip items)
  | .dateTime => some .standard
  | _ => none

def ofFields (fields : Toml.Fields) : Option ConfigFile := do
  let socketPath ← optional readText "socket_path" fields
  let repositoryUrl ← optional readText "repo_url" fields
  let cacheServerUrl ← optional readText "cache_server_url" fields
  let localCacheRoot ← optional readText "local_cache_root" fields
  let gitObjectsRoot ← optional readText "git_objects_root" fields
  let pool ← optional readPool "pool" fields
  let heartbeatInterval ← optional readNatural "heartbeat_interval_secs" fields
  let backgroundWorkers ← optional readNatural "background_workers" fields
  pure { socketPath, repositoryUrl, cacheServerUrl, localCacheRoot, gitObjectsRoot,
         pool := pool.getD .standard, heartbeatInterval, backgroundWorkers }

def parse (text : String) : Option ConfigFile :=
  (Toml.parse text).bind ofFields

end ConfigFile

end Enlistment
