import Enlistment.Config
import Enlistment.Control.Client
import Enlistment.Files
import Enlistment.Mount.ControlLink
import Enlistment.Store.StoreFile

/-!
A machine on which mounts run: its files, the mounts, and the connections to them. The tables of a
mount are in its store file, so they outlive the mount, and what anyone writes there the mount sees.
-/

namespace Enlistment

open Control

structure HostedMount where
  daemon : Daemon
  store : Place
  socketPath : String
  downloadable : List String
  isListening : Bool

structure HostedLink where
  mount : Nat
  link : ControlLink

structure Machine where
  folder : Place
  files : Files
  mounts : List HostedMount
  links : List (String × HostedLink)

namespace Machine

def exists? (path : String) (machine : Machine) : Bool :=
  (machine.files.at? machine.folder path).isSome

def configSource (layout : Layout) (machine : Machine) : ConfigSource :=
  match machine.files.resolve machine.folder layout.config with
  | .error .notFound => .absent
  | .error fault => .unreadable (.file fault)
  | .ok place =>
      match machine.files.find? place with
      | some (.file content) => .ofBytes content
      | some (.store _) => .unreadable .notText
      | some (.socket _) => .unreadable (.file .noDevice)
      | _ => .unreadable (.file .isADirectory)

def openStore (path : String) (machine : Machine) : Except DatabaseError StoreFile × Machine :=
  let (opened, files) := StoreFile.openAt machine.folder path machine.files
  (opened, { machine with files })

def setMount (number : Nat) (hosted : HostedMount) (machine : Machine) : Machine :=
  { machine with mounts := machine.mounts.set number hosted }

/-- The mount as it is with the tables that are in its store file. -/
def reloaded (hosted : HostedMount) (files : Files) : Daemon :=
  match files.find? hosted.store with
  | some (.store tables) =>
      { hosted.daemon with
        pipeline := hosted.daemon.pipeline.map fun pipeline =>
          pipeline.setDatabase { pipeline.stores.database with tables } }
  | _ => hosted.daemon

def stored (hosted : HostedMount) (files : Files) : Files :=
  match files.find? hosted.store, hosted.daemon.pipeline with
  | some (.store _), some pipeline =>
      files.put hosted.store (.store pipeline.stores.database.tables)
  | _, _ => files

/-- Uses a mount, and lets its workers finish. -/
def withMount {Answer : Type} (number : Nat) (use : Daemon → Answer × Daemon) (machine : Machine) :
    Option Answer × Machine :=
  match machine.mounts[number]? with
  | none => (none, machine)
  | some hosted =>
      let (answer, used) := use (reloaded hosted machine.files)
      let after := { hosted with daemon := used.settle }
      (some answer, { machine.setMount number after with files := stored after machine.files })

def abstractListener? (path : String) (machine : Machine) : Option Nat :=
  machine.mounts.findIdx? fun hosted => hosted.isListening && hosted.socketPath == path

def clear (path : String) (machine : Machine) : Except FileFault Machine :=
  if machine.exists? path then
    (machine.files.remove machine.folder path).map fun files => { machine with files }
  else .ok machine

/-- Makes a socket where nothing is. An empty path gives a socket that nobody finds. -/
def placeSocket (path : String) (number : Nat) (machine : Machine) : Except MountError Machine :=
  if (Socket.pathFault? path).isSome then .error .bind
  else if path.isEmpty then .ok machine
  else if Socket.isAbstract path then
    if (machine.abstractListener? path).isSome then .error .bind else .ok machine
  else
    match machine.files.write machine.folder path (.socket number) with
    | .ok files => .ok { machine with files }
    | .error _ => .error .bind

def bind (path : String) (number : Nat) (machine : Machine) : Except MountError Unit × Machine :=
  let (made, files) := machine.files.createParents .sound machine.folder path
  let reached := { machine with files }
  match made, reached.clear path with
  | .ok _, .ok cleared =>
      match cleared.placeSocket path number with
      | .ok bound => (.ok (), bound)
      | .error error => (.error error, cleared)
  | _, _ => (.error .bind, reached)

def stopListening (number : Nat) (machine : Machine) : Machine :=
  match machine.mounts[number]? with
  | none => machine
  | some hosted =>
      let files := (machine.files.remove machine.folder hosted.socketPath).toOption
      let quiet := machine.setMount number { hosted with isListening := false }
      { quiet with files := files.getD machine.files }

def startPipeline (config : MountConfig) (number : Nat) (machine : Machine) :
    Except (Failure MountError) Unit × Machine :=
  match machine.openStore config.layout.database with
  | (.error error, after) => (.error (.error (.database error)), after)
  | (.ok store, opened) =>
      match opened.mounts[number]? with
      | none => (.ok (), opened)
      | some hosted =>
          let (result, tables, daemon) := hosted.daemon.startPipeline config.pool.sizes store.tables
          let started := opened.setMount number { hosted with daemon, store := store.place }
          let files := opened.files.put store.place (.store tables)
          match result with
          | .error (.error _) => (result, { started with files })
          | _ => (result, { started with files := StoreFile.keepOpen store.place files })

def becomeReady (daemon : Daemon) : Except MountError Unit × Daemon :=
  let parsed : Daemon :=
    { daemon with
      pipeline := daemon.pipeline.map fun pipeline => { pipeline with projectionParsed := true } }
  match parsed.state.transition .ready with
  | .ok state => (.ok (), { parsed with state })
  | .error error => (.error (.transition error), parsed)

def infoOf (config : MountConfig) : EnlistmentInfo where
  root := config.layout.enlistmentRoot
  localCacheRoot := config.localCacheRoot
  repositoryUrl := config.repositoryUrl
  cacheServer := config.cacheServer.map Url.render

/-- A process that ends at once. What it had made is left: its socket, and the files beside its
store. -/
def abandon (number : Nat) (machine : Machine) : Machine :=
  match machine.mounts[number]? with
  | none => machine
  | some hosted => machine.setMount number { hosted with isListening := false }

def startMount (config : MountConfig) (downloadable : List String) (machine : Machine) :
    Except (Failure MountError) Nat × Machine :=
  let number := machine.mounts.length
  match machine.bind config.socketPath number with
  | (.error error, after) => (.error (.error error), after)
  | (.ok _, bound) =>
      let hosted : HostedMount :=
        ⟨.mounting (infoOf config), [], config.socketPath, downloadable, true⟩
      let added := { bound with mounts := bound.mounts ++ [hosted] }
      match added.startPipeline config number with
      | (.error (.error error), failed) =>
          let (_, marked) := failed.withMount number fun daemon =>
            ((), { daemon with state := .mountFailed })
          (.error (.error error), marked.stopListening number)
      | (.error (.abort fault), broken) => (.error (.abort fault), broken.abandon number)
      | (.ok _, started) =>
          match started.withMount number becomeReady with
          | (some (.error error), after) => (.error (.error error), after)
          | (_, ready) => (.ok number, ready)

def mountEnlistment (root : String) (downloadable : List String) (machine : Machine) :
    Except ConfigError (Except (Failure MountError) Nat × Machine) := do
  let layout := Layout.below root
  let config ← MountConfig.load layout (machine.configSource layout)
  pure (machine.startMount config downloadable)

def closeStore (place : Place) (machine : Machine) : Machine :=
  if machine.mounts.any fun hosted => hosted.isListening && hosted.store == place then machine
  else { machine with files := StoreFile.close place machine.files }

def endMount (number : Nat) (machine : Machine) : Option ExitCode × Machine :=
  match machine.mounts[number]? with
  | none => (none, machine)
  | some hosted =>
      let (_, stopped) := machine.withMount number fun daemon =>
        ((), { daemon with pipeline := daemon.pipeline.map Pipeline.stop })
      (hosted.daemon.exitCode, (stopped.stopListening number).closeStore hosted.store)

/-- Asks a mount to unmount and ends it. If an unmount is under way, that one's code counts. -/
def interruptMount (number : Nat) (machine : Machine) : Option ExitCode × Machine :=
  let (begun, after) := machine.withMount number Daemon.beginUnmount
  let (code, ended) := after.endMount number
  match begun with
  | some (.ok _) => (some .success, ended)
  | _ => (code, ended)

def listenerAt (path : String) (machine : Machine) : Except ConnectFault Nat :=
  match Socket.pathFault? path with
  | some fault => .error fault
  | none =>
      if path.isEmpty then .error .invalidAddress
      else if Socket.isAbstract path then
        match machine.abstractListener? path with
        | some number => .ok number
        | none => .error .refused
      else
        match machine.files.resolve machine.folder path with
        | .error fault => .error (.file fault)
        | .ok place =>
            match machine.files.find? place with
            | some (.socket number) =>
                if machine.mounts[number]?.any (·.isListening) then .ok number else .error .refused
            | _ => .error .refused

def setLink (name : String) (hosted : HostedLink) (machine : Machine) : Machine :=
  { machine with links := (name, hosted) :: machine.links.filter (·.1 ≠ name) }

def dropLink (name : String) (machine : Machine) : Machine :=
  { machine with links := machine.links.filter (·.1 ≠ name) }

def canDownload (number : Nat) (machine : Machine) (id : ContentId) : Bool :=
  match machine.mounts[number]? with
  | some hosted => hosted.downloadable.contains id.text
  | none => false

def onLink (name : String) (use : (ContentId → Bool) → ControlLink → Daemon → ControlLink × Daemon)
    (machine : Machine) : Machine :=
  match machine.links.lookup name with
  | none => machine
  | some hosted =>
      match machine.withMount hosted.mount (use (machine.canDownload hosted.mount) hosted.link) with
      | (some link, after) => after.setLink name { hosted with link }
      | (none, after) => after

def close (name : String) (machine : Machine) : Bool × Machine :=
  let isOpen := (machine.links.lookup name).isSome
  (isOpen, (machine.onLink name ControlLink.close).dropLink name)

def connect (name path : String) (machine : Machine) : Except ConnectFault Unit × Machine :=
  match machine.listenerAt path with
  | .error fault => (.error fault, machine)
  | .ok number => (.ok (), (machine.close name).2.setLink name ⟨number, .fresh⟩)

def send (name : String) (bytes : ByteArray) (machine : Machine) : Machine :=
  machine.onLink name fun fetch link daemon => link.send fetch bytes daemon

def takeLine (name : String) (machine : Machine) :
    Except ProtocolError (Option String) × Machine :=
  match machine.links.lookup name with
  | none => (.ok none, machine)
  | some hosted =>
      let (line, outgoing) := hosted.link.outgoing.takeLine
      (line, machine.setLink name { hosted with link := { hosted.link with outgoing } })

def transport (name : String) : Transport Machine where
  send line machine :=
    match machine.links.lookup name with
    | none => (.error .io, machine)
    | some hosted =>
        if hosted.link.outgoing.isClosed then (.error .io, machine)
        else (.ok (), machine.send name line.toUTF8)
  receive := takeLine name

def hangUp (number : Nat) (machine : Machine) : Machine :=
  { machine with
    links := machine.links.map fun (name, hosted) =>
      if hosted.mount = number then
        let outgoing := { hosted.link.outgoing with isClosed := true }
        (name, { hosted with link := { hosted.link with outgoing } })
      else (name, hosted) }

end Machine

end Enlistment
