import Enlistment.Proofs.Control.Vocabulary
import Enlistment.Proofs.Mount.Gate
import Enlistment.Proofs.Mount.Snapshot

/-!
The calls of a client as the mount takes them. A call is written as one request, read by the mount
as what the client meant, and answered in the words that the client expects for this call.
-/

namespace Enlistment

open Control

inductive ClientCall where
  | getStatus
  | unmount
  | acquireLock (requester : Requester)
  | releaseLock (requester : Requester)
  | downloadObject (id : String)
  | modifiedPaths (version : String)
  | postFetch (packs : List String)

namespace ClientCall

abbrev Answer : ClientCall → Type
  | getStatus => StatusReport
  | unmount => UnmountResult
  | acquireLock _ => LockAnswer
  | releaseLock _ => ReleaseLockResult
  | downloadObject _ => DownloadObjectResult
  | modifiedPaths _ => ModifiedPathsResult × List String
  | postFetch _ => PostFetchResult

def perform {State : Type} (transport : Transport State) :
    (call : ClientCall) → Conversation State call.Answer
  | getStatus => transport.getStatus
  | unmount => transport.unmount
  | acquireLock requester => transport.acquireLock requester
  | releaseLock requester => transport.releaseLock requester
  | downloadObject id => transport.downloadObject id
  | modifiedPaths version => transport.modifiedPathsWithVersion version
  | postFetch packs => transport.postFetch packs

def request : ClientCall → Message
  | getStatus => .headerOnly Request.getStatus
  | unmount => .headerOnly Request.unmount
  | acquireLock requester => ⟨Request.acquireLock, some requester.toBody⟩
  | releaseLock requester => ⟨Request.releaseLock, some requester.toBody⟩
  | downloadObject id => ⟨Request.downloadObject, some id⟩
  | modifiedPaths version => ⟨Request.modifiedPaths, some version⟩
  | postFetch packs => ⟨Request.postFetch, some (Transport.packsToBody packs)⟩

/-- Whether a message says to a mount what the client meant. Line ends behind an id or a version do
not belong to it. -/
def SaidBy (message : Message) : ClientCall → Prop
  | getStatus => message.header = Request.getStatus
  | unmount => message.header = Request.unmount
  | acquireLock requester =>
      message.header = Request.acquireLock ∧ Requester.fromBody message.body = some requester
  | releaseLock requester =>
      message.header = Request.releaseLock ∧ Requester.fromBody message.body = some requester
  | downloadObject id =>
      message.header = Request.downloadObject ∧ message.body.getD "" = Message.trimmed id
  | modifiedPaths version =>
      message.header = Request.modifiedPaths ∧ message.body.getD "" = Message.trimmed version
  | postFetch packs =>
      message.header = Request.postFetch ∧ Daemon.packsOfBody message.body = some packs

def InBounds (daemon : Daemon) : ClientCall → Prop
  | getStatus => daemon.status.backgroundOperationCount < StatusReport.countBound
  | acquireLock requester => requester.pid < Requester.pidBound
  | releaseLock requester => requester.pid < Requester.pidBound
  | _ => True

/-- What the client gets from a mount. An empty path is not listed. -/
def answer (fetch : ContentId → Bool) (daemon : Daemon) : (call : ClientCall) → call.Answer
  | getStatus => daemon.status
  | unmount => daemon.unmountAnswer
  | acquireLock requester => daemon.acquireAnswer requester
  | releaseLock _ => daemon.releaseAnswer
  | downloadObject id => daemon.downloadAnswer fetch (Message.trimmed id)
  | modifiedPaths version =>
      let listed := daemon.pathsAnswer (Message.trimmed version)
      (listed.1, listed.2.filter (· ≠ ""))
  | postFetch _ => daemon.postFetchAnswer

def reply (fetch : ContentId → Bool) (daemon : Daemon) : ClientCall → List String
  | getStatus => [daemon.status.toLine]
  | unmount =>
      if daemon.state = .ready ∨ daemon.state = .mountFailed then ["Ack", "Complete"]
      else [WireCode.spelling (Daemon.unmountRefusal daemon.state)]
  | acquireLock requester => [(daemon.acquireAnswer requester).toMessage.toLine]
  | releaseLock _ => [WireCode.spelling daemon.releaseAnswer]
  | downloadObject id => [WireCode.spelling (daemon.downloadAnswer fetch (Message.trimmed id))]
  | modifiedPaths version => [(daemon.pathsMessage (Message.trimmed version)).toLine]
  | postFetch _ => [WireCode.spelling daemon.postFetchAnswer]

theorem saidBy_request {call : ClientCall} {daemon : Daemon} (bounded : call.InBounds daemon) :
    call.SaidBy (Message.fromLine call.request.toLine) := by
  have trailing : ∀ {header : String}, '|' ∉ header.toList → ∀ body : String,
      (Message.fromLine (Message.toLine ⟨header, some body⟩)).header = header ∧
      (Message.fromLine (Message.toLine ⟨header, some body⟩)).body.getD "" =
        Message.trimmed body := by
    intro header noBar body
    rw [Message.fromLine_toLine noBar]
    refine ⟨rfl, ?_⟩
    dsimp only
    split
    · rename_i empty
      exact empty.symm
    · rfl
  cases call with
  | getStatus =>
      show (Message.fromLine Request.getStatus).header = Request.getStatus
      decide
  | unmount =>
      show (Message.fromLine Request.unmount).header = Request.unmount
      decide
  | acquireLock requester =>
      have noBar : '|' ∉ Request.acquireLock.toList := by decide
      rw [request, Message.fromLine_of_whole noBar requester.isWhole_toBody]
      exact ⟨rfl, Requester.fromBody_toBody bounded⟩
  | releaseLock requester =>
      have noBar : '|' ∉ Request.releaseLock.toList := by decide
      rw [request, Message.fromLine_of_whole noBar requester.isWhole_toBody]
      exact ⟨rfl, Requester.fromBody_toBody bounded⟩
  | downloadObject id => exact trailing (by decide) id
  | modifiedPaths version => exact trailing (by decide) version
  | postFetch packs =>
      have noBar : '|' ∉ Request.postFetch.toList := by decide
      rw [request, Message.fromLine_of_whole noBar (Transport.isWhole_packsToBody packs)]
      exact ⟨rfl, packsOfBody_packsToBody packs⟩

/-- The mount answers a message in the words that belong to the call that it stands for. -/
theorem sent_of_saidBy {daemon : Daemon} (reached : daemon.Reached) {call : ClientCall}
    {message : Message} (said : call.SaidBy message) (fetch : ContentId → Bool) {peer : Peer}
    (steady : peer.accepts = none) :
    (daemon.handle fetch message peer).Sent (call.reply fetch daemon) peer := by
  rcases message with ⟨header, body⟩
  cases call with
  | getStatus =>
      obtain rfl : header = Request.getStatus := said
      exact Daemon.sent_handleStatus steady daemon
  | unmount =>
      obtain rfl : header = Request.unmount := said
      exact Daemon.sent_handleUnmount steady daemon
  | acquireLock requester =>
      obtain ⟨rfl, named⟩ : header = Request.acquireLock ∧
        Requester.fromBody body = some requester := said
      have sent := Daemon.sent_handleAcquireLock steady daemon reached body
      rw [daemon.acquireMessage_of_named named] at sent
      exact sent
  | releaseLock requester =>
      obtain ⟨rfl, named⟩ : header = Request.releaseLock ∧
        Requester.fromBody body = some requester := said
      have sent := Daemon.sent_handleReleaseLock steady daemon body
      rw [Daemon.releaseLines, if_neg (by simp [named])] at sent
      exact sent
  | downloadObject id =>
      obtain ⟨rfl, named⟩ : header = Request.downloadObject ∧
        body.getD "" = Message.trimmed id := said
      rw [reply, ← named]
      exact Daemon.sent_handleDownloadObject steady daemon fetch body
  | modifiedPaths version =>
      obtain ⟨rfl, named⟩ : header = Request.modifiedPaths ∧
        body.getD "" = Message.trimmed version := said
      rw [reply, ← named]
      exact Daemon.sent_handleModifiedPaths steady daemon body
  | postFetch packs =>
      obtain ⟨rfl, listed⟩ : header = Request.postFetch ∧
        Daemon.packsOfBody body = some packs := said
      have sent := Daemon.sent_handlePostFetch steady daemon body
      rw [Daemon.postFetchMessage, if_neg (by simp [listed])] at sent
      exact sent

end ClientCall

namespace Daemon

def HolderInBounds (daemon : Daemon) : Prop :=
  ∀ pid, daemon.lock.owner? = some (.process pid) → pid < Requester.pidBound

theorem HolderInBounds.handle {daemon : Daemon} (bounded : daemon.HolderInBounds)
    (fetch : ContentId → Bool) (request : Message) (peer : Peer) :
    (daemon.handle fetch request peer).daemon.HolderInBounds := by
  have unheld : ∀ {ended : Daemon}, ended.lock.holder = none → ended.HolderInBounds := by
    intro ended nobody pid owned
    rw [LockArbiter.owner?, nobody] at owned
    contradiction
  rw [daemon_handle, after]
  rcases daemon.effect_cases request with
    nothing | ⟨_, unmount⟩ | ⟨_, loseTrack⟩ | ⟨_, ⟨lock, caused, passed⟩ | ⟨id, caused⟩ | ⟨packs, caused⟩⟩
  · rw [nothing]
    exact bounded
  · rw [unmount]
    exact unheld daemon.ended_suffer_unmount.free.holder
  · rw [loseTrack]
    exact unheld daemon.ended_suffer_loseTrack.free.holder
  · rw [caused]
    intro pid owned
    rcases passed with freed | same | ⟨requester, named, taken⟩
    · exact absurd (freed.symm.trans owned) (by simp)
    · exact bounded pid (same.symm.trans owned)
    · have own : requester.pid = pid := by
        simpa using taken.symm.trans owned
      exact own ▸ Requester.pid_lt_of_fromBody named
  · rw [caused]
    exact bounded
  · rw [caused]
    exact bounded

theorem HolderInBounds.settle {daemon : Daemon} (bounded : daemon.HolderInBounds) :
    daemon.settle.HolderInBounds := by
  exact bounded

theorem Reached.settle {daemon : Daemon} (reached : daemon.Reached) : daemon.settle.Reached := by
  exact .worked _ reached

theorem fromMessage_acquireAnswer {daemon : Daemon} (reached : daemon.Reached)
    (bounded : daemon.HolderInBounds) (requester : Requester) :
    LockAnswer.fromMessage (.fromLine (daemon.acquireAnswer requester).toMessage.toLine) =
      .ok (daemon.acquireAnswer requester) := by
  have whole : ∀ reason ∈ denials, Message.IsWhole reason := by
    simp only [denials, List.forall_mem_cons, List.not_mem_nil, false_implies, implies_true,
      and_true]
    exact ⟨⟨by decide, by decide, by decide⟩, ⟨by decide, by decide, by decide⟩,
      ⟨by decide, by decide, by decide⟩⟩
  refine LockAnswer.fromMessage_request
    (fun reason denied => whole reason (reached.denial_mem denied)) ?_ requester
  intro holder held
  exact bounded holder.pid (LockArbiter.owner?_of_process? held)

theorem pathsAnswer_cases (daemon : Daemon) (version : String) :
    (∃ paths, daemon.pathsAnswer version = (.success, paths)) ∨
      ∃ refusal, refusal ≠ .success ∧ daemon.pathsAnswer version = (refusal, []) := by
  unfold pathsAnswer
  split
  · exact .inr ⟨_, by decide, rfl⟩
  · split
    · exact .inl ⟨_, rfl⟩
    · exact .inr ⟨_, by decide, rfl⟩

theorem fromLine_pathsMessage (daemon : Daemon) (version : String) :
    ∃ body, Message.fromLine (daemon.pathsMessage version).toLine =
        ⟨WireCode.spelling (daemon.pathsAnswer version).1, body⟩ ∧
      (body.map splitList).getD [] = (daemon.pathsAnswer version).2.filter (· ≠ "") := by
  rw [pathsMessage]
  rcases daemon.pathsAnswer_cases version with ⟨paths, same⟩ | ⟨refusal, different, same⟩
  · rw [same]
    exact Message.fromLine_joinList paths
  · rw [same]
    refine ⟨none, ?_, rfl⟩
    cases refusal with
    | success => contradiction
    | _ => exact WireCode.Lawful.read _

end Daemon

end Enlistment
