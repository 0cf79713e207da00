import Enlistment.Config.File
import Enlistment.Files
import Enlistment.Layout
import Enlistment.Url

/-!
What a mount runs with: the configuration file, filled up from the layout of the enlistment.
-/

namespace Enlistment

inductive ReadFault where
  | notText
  | file (fault : FileFault)
deriving DecidableEq

def ReadFault.message : ReadFault → String
  | notText => "stream did not contain valid UTF-8"
  | file fault => fault.message

inductive ConfigError where
  | unreadable (fault : ReadFault)
  | malformed
  | cacheServerUrl (error : UrlError)
  | noWorkers
deriving DecidableEq

def ConfigError.message? : ConfigError → Option String
  | unreadable _ => none
  | malformed => none
  | cacheServerUrl error => some ("cache server url is invalid: " ++ error.message)
  | noWorkers => some "background_workers must be at least 1"

inductive ConfigSource where
  | absent
  | unreadable (fault : ReadFault)
  | text (content : String)
deriving DecidableEq

def ConfigSource.ofBytes (bytes : ByteArray) : ConfigSource :=
  match String.fromUTF8? bytes with
  | some content => .text content
  | none => .unreadable .notText

def ConfigSource.read : ConfigSource → Except ConfigError ConfigFile
  | absent => .ok .empty
  | unreadable fault => .error (.unreadable fault)
  | text content =>
      match ConfigFile.parse content with
      | some file => .ok file
      | none => .error .malformed

structure MountConfig where
  layout : Layout
  socketPath : String
  repositoryUrl : String
  cacheServer : Option Url
  localCacheRoot : String
  gitObjectsRoot : String
  pool : PoolSettings
  heartbeatInterval : Nat
  backgroundWorkers : Nat
deriving DecidableEq

namespace MountConfig

def standardHeartbeat : Nat := 60

def parseCacheServer (text : Option String) : Except ConfigError (Option Url) :=
  match text with
  | none => .ok none
  | some "" => .ok none
  | some url =>
      match Url.parse url with
      | .ok parsed => .ok (some parsed)
      | .error error => .error (.cacheServerUrl error)

def resolve (layout : Layout) (file : ConfigFile) : Except ConfigError MountConfig := do
  let cacheServer ← parseCacheServer file.cacheServerUrl
  let backgroundWorkers := file.backgroundWorkers.getD 1
  if backgroundWorkers = 0 then throw .noWorkers
  let gitObjectsRoot := file.gitObjectsRoot.getD layout.gitObjects
  pure { layout
         socketPath := file.socketPath.getD layout.socket
         repositoryUrl := file.repositoryUrl.getD ""
         cacheServer
         localCacheRoot := file.localCacheRoot.getD gitObjectsRoot
         gitObjectsRoot
         pool := file.pool
         heartbeatInterval := file.heartbeatInterval.getD standardHeartbeat
         backgroundWorkers }

def load (layout : Layout) (source : ConfigSource) : Except ConfigError MountConfig := do
  resolve layout (← source.read)

end MountConfig

end Enlistment
