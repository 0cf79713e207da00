import Enlistment.Proofs.Lock.Exclusion
import Enlistment.Proofs.Mount.Answers

/-!
A mount answers while it is ready, and ends once. What is asked of it in another state is refused and
changes nothing, but for an unmount of a mount that failed; no process has the lock then; and the
first request that ends the mount decides the exit code, since nothing that comes after changes it.
-/

namespace Enlistment

open Control

def Control.Request.known : List String :=
  [Request.getStatus, Request.unmount, Request.acquireLock, Request.releaseLock,
    Request.downloadObject, Request.modifiedPaths, Request.postFetch]

namespace LockArbiter

theorem process?_isSome_iff (arbiter : LockArbiter) :
    arbiter.process?.isSome = true ↔ ∃ pid, arbiter.owner? = some (.process pid) := by
  cases held : arbiter.holder with
  | none => simp [process?, owner?, held]
  | some holder => cases holder <;> simp [process?, owner?, held, LockHolder.owner]

/-- A process that has the lock after it was at most freed had it before. -/
theorem process?_of_freed_or_same {before after : LockArbiter}
    (change : after.owner? = none ∨ after.owner? = before.owner?)
    (held : after.process?.isSome = true) : before.process?.isSome = true := by
  obtain ⟨pid, owned⟩ := (process?_isSome_iff after).mp held
  rcases change with freed | same
  · rw [freed] at owned
    contradiction
  · exact (process?_isSome_iff before).mpr ⟨pid, same.symm.trans owned⟩

structure Free (arbiter : LockArbiter) : Prop where
  holder : arbiter.holder = none
  session : arbiter.sessionId = none

theorem free_clear (arbiter : LockArbiter) : arbiter.clear.Free := by
  exact ⟨rfl, rfl⟩

theorem Free.check {arbiter : LockArbiter} (free : arbiter.Free) (isAlive : Nat → Bool)
    (pid : Nat) : (arbiter.check isAlive pid).Free := by
  have nobody : arbiter.process? = none := by
    rw [process?, free.holder]
  rw [LockArbiter.check, nobody, if_neg (by simp)]
  exact ⟨free.holder, free.session⟩

end LockArbiter

namespace Daemon

section Effects

variable {daemon : Daemon} {request : Message}

theorem effect_of_unmounts (unmounts : daemon.Unmounts request) :
    daemon.effect request = .unmount := by
  rw [effect, if_pos unmounts.1, unmountEffect, if_pos unmounts.2]

theorem effect_of_losesTrack (losesTrack : daemon.LosesTrack request) :
    daemon.effect request = .loseTrack := by
  obtain ⟨asked, ready, unclear⟩ := losesTrack
  rw [effect, if_neg (by rw [asked]; decide), if_neg (by rw [asked]; decide), if_pos asked,
    releaseEffect, if_pos ready, unclear]

theorem ready_of_readyPipeline? {pipeline : Pipeline}
    (served : daemon.readyPipeline? = some pipeline) : daemon.state = .ready := by
  refine Classical.byContradiction fun unready => ?_
  rw [readyPipeline?, if_neg unready] at served
  exact absurd served (by simp)

/-- Whose the lock may be after a request: nobody's, whose it was, or the process's that the request
names. -/
def PassesLock (daemon : Daemon) (request : Message) (lock : LockArbiter) : Prop :=
  lock.owner? = none ∨ lock.owner? = daemon.lock.owner? ∨
    ∃ requester, Requester.fromBody request.body = some requester ∧
      lock.owner? = some (.process requester.pid)

theorem passesLock_request {requester : Requester}
    (named : Requester.fromBody request.body = some requester) (state : MountState)
    (denial : Option String) :
    daemon.PassesLock request (daemon.lock.request state denial requester).2 := by
  rcases LockArbiter.request_cases state denial requester daemon.lock with
    ⟨_, _, _, _, taken⟩ | ⟨_, same⟩
  · have owned : (daemon.lock.request state denial requester).2.owner? =
        some (.process requester.pid) := by
      simp [taken]
    exact .inr (.inr ⟨requester, named, owned⟩)
  · exact .inr (.inl (by rw [same]))

theorem passesLock_release (pid : Nat) :
    daemon.PassesLock request (daemon.lock.release pid).2 := by
  rcases LockArbiter.release_cases pid daemon.lock with ⟨_, freed⟩ | ⟨_, same⟩
  · exact .inl (by rw [freed]; rfl)
  · exact .inr (.inl (by rw [same]))

/-- A request does nothing, or ends the mount, or the mount is ready and stays so. -/
theorem effect_cases (daemon : Daemon) (request : Message) :
    daemon.effect request = .nothing ∨
    (daemon.Unmounts request ∧ daemon.effect request = .unmount) ∨
    (daemon.LosesTrack request ∧ daemon.effect request = .loseTrack) ∨
    (daemon.state = .ready ∧
      ((∃ lock, daemon.effect request = .setLock lock ∧ daemon.PassesLock request lock) ∨
      (∃ id, daemon.effect request = .download id) ∨
      ∃ packs, daemon.effect request = .maintain packs)) := by
  unfold effect
  split
  · rename_i asked
    unfold unmountEffect
    split
    · rename_i accepted
      exact .inr (.inl ⟨⟨asked, accepted⟩, rfl⟩)
    · exact .inl rfl
  split
  · unfold acquireEffect
    split
    · rename_i ready
      split
      · rename_i named
        exact .inr (.inr (.inr ⟨ready, .inl ⟨_, rfl, passesLock_request named .ready _⟩⟩))
      · exact .inl rfl
    · exact .inl rfl
  split
  · rename_i asked
    unfold releaseEffect
    split
    · rename_i ready
      split
      · exact .inr (.inr (.inr ⟨ready, .inl ⟨_, rfl, passesLock_release _⟩⟩))
      · rename_i unclear
        exact .inr (.inr (.inl ⟨⟨asked, ready, unclear⟩, rfl⟩))
    · exact .inl rfl
  split
  · unfold downloadEffect
    split
    · rename_i served parsed
      exact .inr (.inr (.inr ⟨ready_of_readyPipeline? served, .inr (.inl ⟨_, rfl⟩)⟩))
    · exact .inl rfl
  split
  · unfold postFetchEffect
    split
    · rename_i served parsed
      split
      · exact .inr (.inr (.inr ⟨ready_of_readyPipeline? served, .inr (.inr ⟨_, rfl⟩)⟩))
      · exact .inl rfl
    · exact .inl rfl
  · exact .inl rfl

def refusals : List String :=
  ["UnmountInProgress", "MountNotReady", "NotMounted", "AlreadyUnmounting"]

theorem proper_refusal {refusal : String} (listed : refusal ∈ refusals ∨ refusal = unknownRequest) :
    Peer.Proper (Message.headerOnly refusal).toLine := by
  simp only [refusals, List.mem_cons, List.not_mem_nil, or_false] at listed
  rcases listed with (rfl | rfl | rfl | rfl) | rfl
  all_goals decide

theorem handleUnmount_of_refused (refused : ¬(daemon.state = .ready ∨ daemon.state = .mountFailed))
    (peer : Peer) :
    ∃ refusal ∈ refusals, daemon.handleUnmount peer = daemon.answerWith (.headerOnly refusal) peer := by
  rw [handleUnmount]
  cases state : daemon.state with
  | ready => exact absurd (.inl state) refused
  | mountFailed => exact absurd (.inr state) refused
  | mounting => exact ⟨_, by decide, rfl⟩
  | unmounting => exact ⟨_, by decide, rfl⟩

theorem handleAcquireLock_of_unready (unready : daemon.state ≠ .ready) (body : Option String)
    (peer : Peer) :
    ∃ refusal ∈ refusals,
      daemon.handleAcquireLock body peer = daemon.answerWith (.headerOnly refusal) peer := by
  rw [handleAcquireLock]
  cases Requester.fromBody body with
  | none =>
      cases state : daemon.state with
      | ready => exact absurd state unready
      | mountFailed => exact ⟨_, by decide, rfl⟩
      | mounting => exact ⟨_, by decide, rfl⟩
      | unmounting => exact ⟨_, by decide, rfl⟩
  | some requester =>
      dsimp only
      rw [LockArbiter.request_of_unready unready]
      split
      · exact ⟨"UnmountInProgress", by decide, rfl⟩
      · exact ⟨"MountNotReady", by decide, rfl⟩

/-- A mount that is not ready and does not unmount refuses what it knows, and says so of what it does
not know. -/
theorem handle_of_unready (unready : daemon.state ≠ .ready)
    (asksMore : request.header ≠ Request.getStatus) (stays : ¬daemon.Unmounts request)
    (fetch : ContentId → Bool) (peer : Peer) :
    ∃ refusal, daemon.handle fetch request peer = daemon.answerWith (.headerOnly refusal) peer ∧
      (request.header ∈ Request.known → refusal ∈ refusals) ∧
      (request.header ∉ Request.known → refusal = unknownRequest) := by
  have told : ∀ {handled : Handled}, request.header ∈ Request.known →
      (∃ refusal ∈ refusals, handled = daemon.answerWith (.headerOnly refusal) peer) →
      ∃ refusal, handled = daemon.answerWith (.headerOnly refusal) peer ∧
        (request.header ∈ Request.known → refusal ∈ refusals) ∧
        (request.header ∉ Request.known → refusal = unknownRequest) := by
    rintro handled known ⟨refusal, listed, same⟩
    exact ⟨refusal, same, fun _ => listed, fun unknown => absurd known unknown⟩
  have unserved : daemon.readyPipeline? = none := if_neg unready
  rw [handle, if_neg asksMore]
  split
  · rename_i asked
    have refused : ¬(daemon.state = .ready ∨ daemon.state = .mountFailed) :=
      fun accepted => stays ⟨asked, accepted⟩
    exact told (asked ▸ by decide) (daemon.handleUnmount_of_refused refused peer)
  split
  · rename_i asked
    exact told (asked ▸ by decide) (daemon.handleAcquireLock_of_unready unready request.body peer)
  split
  · rename_i asked
    rw [handleReleaseLock, if_pos unready]
    exact told (asked ▸ by decide) ⟨_, by decide, rfl⟩
  split
  · rename_i asked
    rw [handleDownloadObject, unserved]
    exact told (asked ▸ by decide) ⟨_, by decide, rfl⟩
  split
  · rename_i asked
    rw [handleModifiedPaths, unserved]
    exact told (asked ▸ by decide) ⟨_, by decide, rfl⟩
  split
  · rename_i asked
    rw [handlePostFetch, unserved]
    exact told (asked ▸ by decide) ⟨_, by decide, rfl⟩
  · have unknown : request.header ∉ Request.known := by
      simp only [Request.known, List.mem_cons, List.not_mem_nil, or_false, not_or]
      exact ⟨asksMore, ‹_›, ‹_›, ‹_›, ‹_›, ‹_›, ‹_›⟩
    exact ⟨unknownRequest, rfl, fun known => absurd known unknown, fun _ => rfl⟩

end Effects

inductive Input where
  | request (fetch : ContentId → Bool) (message : Message) (peer : Peer)
  | tick (isAlive : Nat → Bool)
  | look (isAlive : Nat → Bool) (pid : Nat)

def perform (daemon : Daemon) : Input → Daemon
  | .request fetch message peer => (daemon.handle fetch message peer).daemon
  | .tick isAlive => { daemon with lock := daemon.lock.tick isAlive }
  | .look isAlive pid => { daemon with lock := daemon.lock.check isAlive pid }

def performAll (inputs : List Input) (daemon : Daemon) : Daemon :=
  inputs.foldl perform daemon

def Gated (daemon : Daemon) : Prop :=
  daemon.lock.process?.isSome = true → daemon.state = .ready

structure Ended (code : ExitCode) (daemon : Daemon) : Prop where
  state : daemon.state = .unmounting
  free : daemon.lock.Free
  exitCode : daemon.exitCode = some code

theorem ended_suffer_unmount (daemon : Daemon) : (daemon.suffer .unmount).Ended .success := by
  exact ⟨rfl, daemon.lock.free_clear, rfl⟩

theorem ended_suffer_loseTrack (daemon : Daemon) :
    (daemon.suffer .loseTrack).Ended .nullRequestData := by
  exact ⟨rfl, daemon.lock.free_clear, rfl⟩

theorem Ended.gated {code : ExitCode} {daemon : Daemon} (ended : daemon.Ended code) :
    daemon.Gated := by
  intro held
  rw [LockArbiter.process?, ended.free.holder] at held
  exact absurd held (by simp)

theorem Gated.perform {daemon : Daemon} (gated : daemon.Gated) (input : Input) :
    (daemon.perform input).Gated := by
  cases input with
  | request fetch message peer =>
      rw [Daemon.perform, daemon_handle, after]
      rcases daemon.effect_cases message with
        nothing | ⟨_, unmount⟩ | ⟨_, loseTrack⟩ | ⟨ready, ⟨lock, caused, _⟩ | ⟨id, caused⟩ | ⟨packs, caused⟩⟩
      · rw [nothing]
        exact gated
      · rw [unmount]
        exact daemon.ended_suffer_unmount.gated
      · rw [loseTrack]
        exact daemon.ended_suffer_loseTrack.gated
      · rw [caused]
        exact fun _ => ready
      · rw [caused]
        exact fun _ => ready
      · rw [caused]
        exact fun _ => ready
  | tick isAlive =>
      intro held
      refine gated (LockArbiter.process?_of_freed_or_same ?_ held)
      rcases daemon.lock.foldl_check_cases isAlive daemon.lock.watched with
        ⟨_, _, _, freed⟩ | same
      · exact .inl freed
      · exact .inr same
  | look isAlive pid =>
      intro held
      refine gated (LockArbiter.process?_of_freed_or_same ?_ held)
      rcases daemon.lock.check_cases isAlive pid with ⟨_, _, freed⟩ | same
      · exact .inl freed
      · exact .inr same

theorem Gated.performAll {daemon : Daemon} (gated : daemon.Gated) (inputs : List Input) :
    (daemon.performAll inputs).Gated :=
  List.foldlRecOn inputs _ gated fun _ kept input _ => kept.perform input

theorem Ended.perform {code : ExitCode} {daemon : Daemon} (ended : daemon.Ended code)
    (input : Input) : (daemon.perform input).Ended code := by
  cases input with
  | request fetch message peer =>
      have nothing : daemon.effect message = .nothing := by
        rcases daemon.effect_cases message with
          nothing | ⟨unmounts, _⟩ | ⟨losesTrack, _⟩ | ⟨ready, _⟩
        · exact nothing
        · have accepted := unmounts.2
          simp [ended.state] at accepted
        · have ready := losesTrack.2.1
          simp [ended.state] at ready
        · simp [ended.state] at ready
      rw [Daemon.perform, daemon_handle, after, nothing]
      exact ended
  | tick isAlive =>
      refine ⟨ended.state, ?_, ended.exitCode⟩
      exact List.foldlRecOn daemon.lock.watched _ (motive := LockArbiter.Free) ended.free
        fun _ free pid _ => free.check isAlive pid
  | look isAlive pid => exact ⟨ended.state, ended.free.check isAlive pid, ended.exitCode⟩

theorem Ended.performAll {code : ExitCode} {daemon : Daemon} (ended : daemon.Ended code)
    (inputs : List Input) : (daemon.performAll inputs).Ended code :=
  List.foldlRecOn inputs _ ended fun _ kept input _ => kept.perform input

theorem exitCode_after {daemon : Daemon} {request : Message} (goesOn : ¬daemon.Unmounts request)
    (keepsTrack : ¬daemon.LosesTrack request) : (daemon.after request).exitCode = daemon.exitCode := by
  rw [after]
  rcases daemon.effect_cases request with
    nothing | ⟨unmounts, _⟩ | ⟨losesTrack, _⟩ | ⟨_, ⟨lock, caused, _⟩ | ⟨id, caused⟩ | ⟨packs, caused⟩⟩
  · rw [nothing]
    rfl
  · exact absurd unmounts goesOn
  · exact absurd losesTrack keepsTrack
  · rw [caused]
    rfl
  · rw [caused]
    rfl
  · rw [caused]
    rfl

/-- Whatever comes to a mount, in any order: while it is not ready, it refuses every request but one
for its status and an unmount after it failed, and is left as it was; a process has the lock only
while it is ready; and nothing asks it to exit but an unmount that is not refused and a release that
loses track of the lock, the first of which decides the exit code and leaves the mount unmounting
and its lock free, whatever comes after. -/
theorem readiness_gate {daemon : Daemon} (gated : daemon.Gated) (inputs : List Input) :
    let current := daemon.performAll inputs
    (∀ fetch request peer, current.state ≠ .ready → request.header ≠ Request.getStatus →
      (request.header = Request.unmount → current.state ≠ .mountFailed) →
      (current.handle fetch request peer).daemon = current ∧
      ∃ refusal, (request.header ∈ Request.known → refusal ∈ refusals) ∧
        (request.header ∉ Request.known → refusal = unknownRequest) ∧
        (peer.accepts = none → (current.handle fetch request peer).Sent [refusal] peer)) ∧
    current.Gated ∧
    ∀ fetch request peer,
      ((current.handle fetch request peer).daemon.exitCode ≠ current.exitCode →
        current.Unmounts request ∨ current.LosesTrack request) ∧
      (current.Unmounts request → ∀ later,
        ((current.handle fetch request peer).daemon.performAll later).Ended .success) ∧
      (current.LosesTrack request → ∀ later,
        ((current.handle fetch request peer).daemon.performAll later).Ended .nullRequestData) := by
  intro current
  refine ⟨?_, gated.performAll inputs, ?_⟩
  · intro fetch request peer unready asksMore notFailed
    have stays : ¬current.Unmounts request := by
      rintro ⟨asked, ready | failed⟩
      · exact unready ready
      · exact notFailed asked failed
    obtain ⟨refusal, same, ofKnown, ofUnknown⟩ :=
      handle_of_unready unready asksMore stays fetch peer
    rw [same]
    refine ⟨daemon_answerWith _ _ _, refusal, ofKnown, ofUnknown, ?_⟩
    intro steady
    refine sent_answerWith steady current (proper_refusal ?_)
    by_cases known : request.header ∈ Request.known
    · exact .inl (ofKnown known)
    · exact .inr (ofUnknown known)
  · intro fetch request peer
    rw [daemon_handle]
    refine ⟨?_, ?_, ?_⟩
    · intro changed
      refine Classical.byContradiction fun neither => changed ?_
      obtain ⟨goesOn, keepsTrack⟩ := not_or.mp neither
      exact exitCode_after goesOn keepsTrack
    · intro unmounts
      rw [after, effect_of_unmounts unmounts]
      exact current.ended_suffer_unmount.performAll
    · intro losesTrack
      rw [after, effect_of_losesTrack losesTrack]
      exact current.ended_suffer_loseTrack.performAll

/-- A process has the lock of a mount, which is unmounted, and then gets a release that names
nobody. -/
theorem exit_code_of_unmount_before_unclear_release :
    heldWithLineBreak.Gated ∧
      ((heldWithLineBreak.handle (fun _ => false) (.headerOnly "Unmount") .steady).daemon.performAll
        [.request (fun _ => false) (.headerOnly "ReleaseLock") .steady,
          .tick fun _ => false]).Ended .success := by
  have gated : heldWithLineBreak.Gated := fun _ => rfl
  obtain ⟨_, _, ends⟩ := readiness_gate gated []
  exact ⟨gated, (ends (fun _ => false) (.headerOnly "Unmount") .steady).2.1
    ⟨rfl, .inl rfl⟩ _⟩

end Daemon

end Enlistment
