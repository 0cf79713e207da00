import Enlistment.Mount.Daemon
import Enlistment.Proofs.Lock.Operations

/-!
What a request does to the mount, said once for all handlers. It depends on the request and on the
mount alone: not on who asked, whether the answer arrives, or what becomes of a download.
-/

namespace Enlistment

open Control

inductive RequestEffect where
  | nothing
  | unmount
  | loseTrack
  | setLock (lock : LockArbiter)
  | download (id : ContentId)
  | maintain (packs : List String)

namespace Daemon

def suffer (daemon : Daemon) : RequestEffect → Daemon
  | .nothing => daemon
  | .unmount => ({ daemon with state := .unmounting }.tearDown).requestExit .success
  | .loseTrack => ({ daemon with state := .unmounting }.tearDown).requestExit .nullRequestData
  | .setLock lock => { daemon with lock }
  | .download id => { daemon with downloads := daemon.downloads ++ [id] }
  | .maintain packs => { daemon with maintenance := daemon.maintenance ++ [packs] }

section Effects

variable (daemon : Daemon)

def unmountEffect : RequestEffect :=
  if daemon.state = .ready ∨ daemon.state = .mountFailed then .unmount else .nothing

def acquireEffect (body : Option String) : RequestEffect :=
  if daemon.state = .ready then
    match Requester.fromBody body with
    | some requester => .setLock (daemon.lock.request .ready daemon.denial requester).2
    | none => .nothing
  else .nothing

def releaseEffect (body : Option String) : RequestEffect :=
  if daemon.state = .ready then
    match Requester.fromBody body with
    | some requester => .setLock (daemon.lock.release requester.pid).2
    | none => .loseTrack
  else .nothing

def downloadEffect (body : Option String) : RequestEffect :=
  match daemon.readyPipeline?, ContentId.parse (body.getD "") with
  | some _, .ok id => .download id
  | _, _ => .nothing

def postFetchEffect (body : Option String) : RequestEffect :=
  match daemon.readyPipeline?, packsOfBody body with
  | some pipeline, some packs => if pipeline.isRunning then .maintain packs else .nothing
  | _, _ => .nothing

def effect (request : Message) : RequestEffect :=
  if request.header = Request.unmount then daemon.unmountEffect
  else if request.header = Request.acquireLock then daemon.acquireEffect request.body
  else if request.header = Request.releaseLock then daemon.releaseEffect request.body
  else if request.header = Request.downloadObject then daemon.downloadEffect request.body
  else if request.header = Request.postFetch then daemon.postFetchEffect request.body
  else .nothing

def changing : List String :=
  [Request.unmount, Request.acquireLock, Request.releaseLock, Request.postFetch]

def after (request : Message) : Daemon :=
  daemon.suffer (daemon.effect request)

end Effects

theorem after_of_unchanging {request : Message} (unchanging : request.header ∉ changing)
    (daemon : Daemon) : ∃ downloads, daemon.after request = { daemon with downloads } := by
  simp only [changing, List.mem_cons, List.not_mem_nil, or_false, not_or] at unchanging
  obtain ⟨notUnmount, notAcquire, notRelease, notPostFetch⟩ := unchanging
  rw [after, effect, if_neg notUnmount, if_neg notAcquire, if_neg notRelease, if_neg notPostFetch]
  split
  · unfold downloadEffect
    split
    · exact ⟨_, rfl⟩
    · exact ⟨_, rfl⟩
  · exact ⟨_, rfl⟩

section Handlers

variable (peer : Peer) (daemon : Daemon)

@[simp]
theorem daemon_answerWith (message : Message) :
    (daemon.answerWith message peer).daemon = daemon := by
  rw [answerWith]

@[simp]
theorem daemon_answerCode {Code : Type} [WireCode Code] (code : Code) :
    (daemon.answerCode code peer).daemon = daemon := by
  simp [answerCode]

@[simp]
theorem daemon_handleStatus : (daemon.handleStatus peer).daemon = daemon := by
  rw [handleStatus]

theorem daemon_handleUnmount :
    (daemon.handleUnmount peer).daemon = daemon.suffer daemon.unmountEffect := by
  unfold handleUnmount unmountEffect
  by_cases unmounts : daemon.state = .ready ∨ daemon.state = .mountFailed
  · have moved : daemon.state.transition .unmounting = .ok .unmounting := by
      rcases unmounts with ready | failed
      · rw [ready]
        rfl
      · rw [failed]
        rfl
    rw [moved, if_pos unmounts, suffer]
    dsimp only
    split
    · exact daemon_answerCode _ _ _
    · rfl
  · have stays : daemon.state.transition .unmounting = .error ⟨daemon.state, .unmounting⟩ := by
      cases state : daemon.state <;> simp_all [MountState.transition, MountState.canBecome]
    simp [stays, unmounts, suffer]

theorem daemon_handleAcquireLock (body : Option String) :
    (daemon.handleAcquireLock body peer).daemon = daemon.suffer (daemon.acquireEffect body) := by
  unfold handleAcquireLock acquireEffect
  cases asked : Requester.fromBody body with
  | none =>
      dsimp only
      rw [ite_self]
      split <;> simp [suffer]
  | some requester =>
      dsimp only
      rw [daemon_answerWith]
      by_cases ready : daemon.state = .ready
      · have asReady : daemon.lock.request daemon.state daemon.denial requester =
            daemon.lock.request .ready daemon.denial requester := by rw [ready]
        rw [if_pos ready, asReady]
        rfl
      · rw [if_neg ready, LockArbiter.request_of_unready ready]
        rfl

theorem daemon_handleReleaseLock (body : Option String) :
    (daemon.handleReleaseLock body peer).daemon = daemon.suffer (daemon.releaseEffect body) := by
  unfold handleReleaseLock releaseEffect
  by_cases ready : daemon.state = .ready
  · rw [if_neg (by simp [ready]), if_pos ready]
    cases Requester.fromBody body <;> simp [suffer]
  · simp [ready, suffer]

theorem daemon_handleDownloadObject (fetch : ContentId → Bool) (body : Option String) :
    (daemon.handleDownloadObject fetch body peer).daemon =
      daemon.suffer (daemon.downloadEffect body) := by
  unfold handleDownloadObject downloadEffect
  cases daemon.readyPipeline? with
  | none => simp [suffer]
  | some pipeline => cases ContentId.parse (body.getD "") <;> simp [suffer]

@[simp]
theorem daemon_handleModifiedPaths (body : Option String) :
    (daemon.handleModifiedPaths body peer).daemon = daemon := by
  unfold handleModifiedPaths
  cases daemon.readyPipeline? with
  | none => simp
  | some pipeline =>
      dsimp only
      split <;> simp

theorem daemon_handlePostFetch (body : Option String) :
    (daemon.handlePostFetch body peer).daemon = daemon.suffer (daemon.postFetchEffect body) := by
  unfold handlePostFetch postFetchEffect
  cases daemon.readyPipeline? with
  | none => simp [suffer]
  | some pipeline =>
      dsimp only
      cases packsOfBody body with
      | none => simp [suffer]
      | some packs =>
          dsimp only
          split <;> simp [suffer]

end Handlers

theorem daemon_handle (fetch : ContentId → Bool) (request : Message) (peer : Peer)
    (daemon : Daemon) : (daemon.handle fetch request peer).daemon = daemon.after request := by
  unfold handle
  split
  · rename_i asked
    rw [after, effect, asked]
    exact daemon_handleStatus peer daemon
  unfold after effect
  split
  · exact daemon_handleUnmount peer daemon
  split
  · exact daemon_handleAcquireLock peer daemon request.body
  split
  · exact daemon_handleReleaseLock peer daemon request.body
  split
  · exact daemon_handleDownloadObject peer daemon fetch request.body
  split
  · rename_i asked
    rw [if_neg (by rw [asked]; decide)]
    exact daemon_handleModifiedPaths peer daemon request.body
  split
  · exact daemon_handlePostFetch peer daemon request.body
  · exact daemon_answerWith peer daemon _

end Daemon

end Enlistment
