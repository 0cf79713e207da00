import Enlistment.Control.ListPayload
import Enlistment.Control.StatusReport
import Enlistment.Lock.Arbiter
import Enlistment.Mount.Peer
import Enlistment.Mount.Pipeline

/-!
A mount as its clients see it: its state, the lock, the pipeline once that was started, and the code
with which the process was asked to exit. Requests come as messages, and each is answered by one
line, except that an unmount is acknowledged before it is answered and that a release that makes no
sense ends the mount without an answer.
-/

namespace Enlistment

open Control

structure EnlistmentInfo where
  root : String
  localCacheRoot : String
  repositoryUrl : String
  cacheServer : Option String
deriving DecidableEq

inductive Readiness where
  | nobody
  | verdict (denial : Option String)
  | pipeline
deriving DecidableEq

structure Daemon where
  info : EnlistmentInfo
  state : MountState
  lock : LockArbiter
  readiness : Readiness
  pipeline : Option Pipeline
  exitCode : Option ExitCode
  downloads : List ContentId
  maintenance : List (List String)
deriving DecidableEq

namespace Daemon

def unknownRequest : String := "UnknownRequest"

def mountNotReady : String := "MountNotReady"

def mounting (info : EnlistmentInfo) : Daemon where
  info
  state := .mounting
  lock := .free
  readiness := .nobody
  pipeline := none
  exitCode := none
  downloads := []
  maintenance := []

def denial (daemon : Daemon) : Option String :=
  match daemon.readiness with
  | .nobody => some LockArbiter.stillStarting
  | .verdict denial => denial
  | .pipeline =>
      match daemon.pipeline with
      | some pipeline => pipeline.denial
      | none => some LockArbiter.stillStarting

def status (daemon : Daemon) : StatusReport where
  enlistmentRoot := daemon.info.root
  localCacheRoot := daemon.info.localCacheRoot
  repositoryUrl := daemon.info.repositoryUrl
  cacheServer := daemon.info.cacheServer.getD StatusReport.noCacheServer
  lockStatus := daemon.lock.status
  mountStatus := daemon.state
  diskLayoutVersion := toString schemaVersion
  backgroundOperationCount :=
    match daemon.pipeline with
    | some pipeline => pipeline.queue.pending
    | none => 0

def requestExit (code : ExitCode) (daemon : Daemon) : Daemon :=
  { daemon with exitCode := some code }

def tearDown (daemon : Daemon) : Daemon :=
  { daemon with pipeline := daemon.pipeline.map Pipeline.stop, lock := daemon.lock.clear }

def unmountRefusal : MountState → UnmountResult
  | .mounting => .notMounted
  | .unmounting => .alreadyUnmounting
  | _ => .unknownState

def beginUnmount (daemon : Daemon) : Except UnmountResult Unit × Daemon :=
  match daemon.state.transition .unmounting with
  | .ok state => (.ok (), { daemon with state }.tearDown)
  | .error error => (.error (unmountRefusal error.actual), daemon)

def readyPipeline? (daemon : Daemon) : Option Pipeline :=
  if daemon.state = .ready then daemon.pipeline else none

/-- What becomes of a request: whether it was carried out, what the peer got, and the mount. -/
structure Handled where
  outcome : Except ProtocolError Unit
  peer : Peer
  daemon : Daemon

def answerWith (message : Message) (peer : Peer) (daemon : Daemon) : Handled :=
  let (outcome, after) := peer.answer message
  ⟨outcome, after, daemon⟩

def answerCode {Code : Type} [WireCode Code] (code : Code) (peer : Peer) (daemon : Daemon) :
    Handled :=
  daemon.answerWith (.headerOnly (WireCode.spelling code)) peer

def handleStatus (peer : Peer) (daemon : Daemon) : Handled :=
  let (outcome, after) := peer.answerLine daemon.status.toLine
  ⟨outcome, after, daemon⟩

/-- The mount is torn down even if the peer is gone before it could be told. -/
def handleUnmount (peer : Peer) (daemon : Daemon) : Handled :=
  match daemon.state.transition .unmounting with
  | .error error => daemon.answerCode (unmountRefusal error.actual) peer
  | .ok state =>
      let stopped := ({ daemon with state }.tearDown).requestExit .success
      match peer.writeLine (WireCode.spelling UnmountResult.acknowledged) with
      | (.ok _, acknowledged) => stopped.answerCode UnmountResult.completed acknowledged
      | (.error error, broken) => ⟨.error error, broken, stopped⟩

def handleAcquireLock (body : Option String) (peer : Peer) (daemon : Daemon) : Handled :=
  match Requester.fromBody body with
  | none =>
      match daemon.state with
      | .unmounting => daemon.answerCode AcquireLockResult.unmountInProgress peer
      | .ready => daemon.answerWith (.headerOnly unknownRequest) peer
      | _ => daemon.answerWith (.headerOnly mountNotReady) peer
  | some requester =>
      let (answer, lock) := daemon.lock.request daemon.state daemon.denial requester
      { daemon with lock }.answerWith answer.toMessage peer

/-- A release that does not say whose it is leaves the lock in doubt, so it ends the mount. -/
def handleReleaseLock (body : Option String) (peer : Peer) (daemon : Daemon) : Handled :=
  if daemon.state ≠ .ready then daemon.answerCode ReleaseLockResult.mountNotReady peer
  else
    match Requester.fromBody body with
    | none =>
        let stopped := { daemon with state := .unmounting }.tearDown
        ⟨.ok (), peer, stopped.requestExit .nullRequestData⟩
    | some requester =>
        let (_, lock) := daemon.lock.release requester.pid
        { daemon with lock }.answerCode ReleaseLockResult.released peer

/-- `fetch` tells whether an object can be downloaded and saved. -/
def handleDownloadObject (fetch : ContentId → Bool) (body : Option String) (peer : Peer)
    (daemon : Daemon) : Handled :=
  match daemon.readyPipeline? with
  | none => daemon.answerCode DownloadObjectResult.mountNotReady peer
  | some _ =>
      match ContentId.parse (body.getD "") with
      | .error _ => daemon.answerCode DownloadObjectResult.invalidSha peer
      | .ok id =>
          { daemon with downloads := daemon.downloads ++ [id] }.answerCode
            (if fetch id then DownloadObjectResult.success else .downloadFailed) peer

def handleModifiedPaths (body : Option String) (peer : Peer) (daemon : Daemon) : Handled :=
  match daemon.readyPipeline? with
  | none => daemon.answerCode ModifiedPathsResult.mountNotReady peer
  | some pipeline =>
      if body.getD "" ≠ Request.modifiedPathsVersion then
        daemon.answerCode ModifiedPathsResult.invalidVersion peer
      else
        daemon.answerWith
          ⟨WireCode.spelling ModifiedPathsResult.success, some (joinList pipeline.stores.paths.all)⟩
          peer

def packsOfBody : Option String → Option (List String)
  | none => some []
  | some body => (Json.parse body).bind Json.texts?

def handlePostFetch (body : Option String) (peer : Peer) (daemon : Daemon) : Handled :=
  match daemon.readyPipeline? with
  | none => daemon.answerCode PostFetchResult.mountNotReady peer
  | some pipeline =>
      match packsOfBody body with
      | none => daemon.answerWith (.headerOnly unknownRequest) peer
      | some packs =>
          if pipeline.isRunning then
            { daemon with maintenance := daemon.maintenance ++ [packs] }.answerCode
              PostFetchResult.queued peer
          else daemon.answerCode PostFetchResult.mountNotReady peer

def handle (fetch : ContentId → Bool) (request : Message) (peer : Peer) (daemon : Daemon) :
    Handled :=
  if request.header = Request.getStatus then daemon.handleStatus peer
  else if request.header = Request.unmount then daemon.handleUnmount peer
  else if request.header = Request.acquireLock then daemon.handleAcquireLock request.body peer
  else if request.header = Request.releaseLock then daemon.handleReleaseLock request.body peer
  else if request.header = Request.downloadObject then
    daemon.handleDownloadObject fetch request.body peer
  else if request.header = Request.modifiedPaths then daemon.handleModifiedPaths request.body peer
  else if request.header = Request.postFetch then daemon.handlePostFetch request.body peer
  else daemon.answerWith (.headerOnly unknownRequest) peer

def attach (pipeline : Pipeline) (daemon : Daemon) : Daemon :=
  { daemon with pipeline := some pipeline, readiness := .pipeline }

/-- Opens the store that was left on disk and starts a pipeline on it. What the store holds
afterwards is given back too, since a start that fails may have changed it. -/
def startPipeline (sizes : PoolSizes) (tables : Tables) (daemon : Daemon) :
    Except (Failure MountError) Unit × Tables × Daemon :=
  match Database.openOn sizes tables with
  | .error error => (.error (.error (.database error)), tables, daemon)
  | .ok database =>
      match Pipeline.start database with
      | (.error failure, after) => (.error failure, after.tables, daemon)
      | (.ok pipeline, after) => (.ok (), after.tables, daemon.attach pipeline)

def settle (daemon : Daemon) : Daemon :=
  { daemon with
    pipeline := daemon.pipeline.map fun pipeline =>
      if pipeline.isRunning then pipeline.drain else pipeline }

end Daemon

end Enlistment
