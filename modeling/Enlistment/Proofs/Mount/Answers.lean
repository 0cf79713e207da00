import Enlistment.Proofs.Control.ListPayload
import Enlistment.Proofs.Json.Writer
import Enlistment.Proofs.Mount.Effect

/-!
How often a request is answered. Every handler sends one line, but for an unmount, which is
acknowledged first, and for a release that names nobody, which ends the mount in silence. What is
sent never has to be replaced: JSON and lists are escaped, and all other answers are fixed texts.
-/

namespace Enlistment

open Control

namespace Peer

structure Proper (line : String) : Prop where
  noLineFeed : '\n' ∉ line.toList
  notReplaced : line ≠ internalError

instance (line : String) : Decidable (Proper line) :=
  decidable_of_iff ('\n' ∉ line.toList ∧ line ≠ internalError)
    ⟨fun both => ⟨both.1, both.2⟩, fun proper => ⟨proper.noLineFeed, proper.notReplaced⟩⟩

theorem proper_of_head {line : String} {first : Char} {rest : List Char}
    (characters : line.toList = first :: rest) (different : first ≠ 'I')
    (noLineFeed : '\n' ∉ first :: rest) : Proper line := by
  constructor
  · rw [characters]
    exact noLineFeed
  · rintro rfl
    have same : internalError.toList = 'I' :: "nternalError".toList := by decide
    rw [same] at characters
    exact different (List.cons.inj characters).1.symm

variable {line : String} {peer : Peer}

theorem writeLine_of_proper (proper : Proper line) (steady : peer.accepts = none) :
    peer.writeLine line = (.ok (), ⟨peer.lines ++ [line], none⟩) := by
  have framed : Control.writeLine line = .ok (line.push '\n') := by
    rw [Control.writeLine, List.contains_eq_mem, decide_eq_false proper.noLineFeed]
    rfl
  rw [writeLine, framed]
  simp only [steady]

theorem answerLine_of_proper (proper : Proper line) (steady : peer.accepts = none) :
    peer.answerLine line = (.ok (), ⟨peer.lines ++ [line], none⟩) := by
  rw [answerLine, writeLine_of_proper proper steady]

end Peer

theorem Control.Requester.printable_toBody (requester : Requester) :
    Json.Printable requester.toBody.toList := by
  rw [Requester.toBody, String.toList_ofList]
  apply Json.printable_writeObject
  intro member listed
  simp only [List.mem_cons, List.not_mem_nil, or_false] at listed
  rcases listed with rfl | rfl | rfl | rfl | rfl
  · exact Json.printable_writeNatural _
  · exact Json.printable_writeBoolean _
  · exact Json.printable_writeBoolean _
  · exact Json.printable_quote _
  · exact Json.printable_quote _

theorem Control.StatusReport.printable_toLine (report : StatusReport) :
    Json.Printable report.toLine.toList := by
  rw [StatusReport.toLine, String.toList_ofList]
  apply Json.printable_writeObject
  intro member listed
  simp only [StatusReport.members, List.mem_cons, List.not_mem_nil, or_false] at listed
  rcases listed with rfl | rfl | rfl | rfl | rfl | rfl | rfl | rfl
  case inr.inr.inr.inr.inr.inr.inr => exact Json.printable_writeNatural _
  all_goals exact Json.printable_quote _

namespace LockArbiter

/-- An answer to a request for the lock is a result alone, or it names the process that has the
lock, or it gives a reason that somebody gave before. -/
theorem answer_cases (state : MountState) (denial : Option String) (requester : Requester)
    (arbiter : LockArbiter) :
    (∃ result, result ≠ .denyGit ∧ result ≠ .denyMount ∧
      (arbiter.request state denial requester).1 = .ofResult result) ∨
    (∃ holder, arbiter.process? = some holder ∧
      (arbiter.request state denial requester).1 = .heldBy holder) ∨
    ∃ reason, (arbiter.request state denial requester).1 = .denied reason ∧
      (reason = heldByMount ∨ denial = some reason) := by
  have alone : ∀ {answer : LockAnswer} (result : AcquireLockResult),
      result ∈ [.acquired, .available, .unmountInProgress, .mountNotReady] →
      answer = .ofResult result →
      ∃ result, result ≠ .denyGit ∧ result ≠ .denyMount ∧ answer = .ofResult result := by
    intro answer result listed same
    refine ⟨result, ?_, ?_, same⟩ <;> rintro rfl <;> exact absurd listed (by decide)
  have refused : ∀ {answer : LockAnswer}, answer = arbiter.refusal →
      (∃ holder, arbiter.process? = some holder ∧ answer = .heldBy holder) ∨
      ∃ reason, answer = .denied reason ∧ (reason = heldByMount ∨ denial = some reason) := by
    rintro answer rfl
    unfold refusal
    cases held : arbiter.process? with
    | some holder => exact .inl ⟨holder, rfl, rfl⟩
    | none => exact .inr ⟨heldByMount, rfl, .inl rfl⟩
  by_cases ready : state = .ready
  · subst ready
    rw [request]
    split
    · cases denial with
      | some reason =>
          cases held : arbiter.process? with
          | some holder =>
              exact .inr (.inl ⟨holder, rfl, availability_of_held held (some reason)⟩)
          | none => exact .inr (.inr ⟨reason, availability_of_denial held reason, .inr rfl⟩)
      | none =>
          by_cases free : arbiter.owner? = none
          · exact .inl (alone _ (by decide) (availability_of_free free))
          · exact .inr (refused (availability_of_taken free))
    · cases denial with
      | some reason => exact .inr (.inr ⟨reason, rfl, .inr rfl⟩)
      | none =>
          by_cases openTo : arbiter.OpenTo requester.pid
          · exact .inl (alone _ (by decide) (congrArg Prod.fst (decide_of_open openTo)))
          · exact .inr (refused (congrArg Prod.fst (decide_of_taken openTo)))
  · rw [request_of_unready ready]
    split <;> exact .inl (alone _ (by decide) rfl)

theorem proper_answer (state : MountState) {denial : Option String}
    (oneLine : ∀ reason, denial = some reason → '\n' ∉ reason.toList) (requester : Requester)
    (arbiter : LockArbiter) :
    Peer.Proper (arbiter.request state denial requester).1.toMessage.toLine := by
  rcases arbiter.answer_cases state denial requester with
    ⟨result, _, _, same⟩ | ⟨holder, _, same⟩ | ⟨reason, same, source⟩
  · rw [same]
    cases result <;> decide
  · rw [same]
    have characters : (LockAnswer.heldBy holder).toMessage.toLine.toList =
        'D' :: ("enyGit|".toList ++ holder.toBody.toList) := by
      simp only [LockAnswer.heldBy, LockAnswer.toMessage, Message.toLine, String.toList_append]
      rfl
    refine Peer.proper_of_head characters (by decide) ?_
    have body := holder.printable_toBody.lineFeed_not_mem
    simp only [List.mem_cons, List.mem_append, not_or]
    exact ⟨by decide, by decide, body⟩
  · rw [same]
    have characters : (LockAnswer.denied reason).toMessage.toLine.toList =
        'D' :: ("enyMount|".toList ++ reason.toList) := by
      simp only [LockAnswer.denied, LockAnswer.toMessage, Message.toLine, String.toList_append]
      rfl
    have body : '\n' ∉ reason.toList := by
      rcases source with rfl | known
      · decide
      · exact oneLine reason known
    refine Peer.proper_of_head characters (by decide) ?_
    simp only [List.mem_cons, List.mem_append, not_or]
    exact ⟨by decide, by decide, body⟩

end LockArbiter

namespace Daemon

/-- The states that a mount comes to, and more: it may be moved to any state, anybody may get the
lock, and whatever pipeline was attached may become any other. But nobody else is asked whether the
lock may be handed out. -/
inductive Reached : Daemon → Prop where
  | mounting (info : EnlistmentInfo) : Reached (.mounting info)
  | moved {daemon : Daemon} (state : MountState) (reached : Reached daemon) :
      Reached { daemon with state }
  | locked {daemon : Daemon} (lock : LockArbiter) (reached : Reached daemon) :
      Reached { daemon with lock }
  | attached {daemon : Daemon} (pipeline : Pipeline) (reached : Reached daemon) :
      Reached (daemon.attach pipeline)
  | worked {daemon : Daemon} (use : Pipeline → Pipeline) (reached : Reached daemon) :
      Reached { daemon with pipeline := daemon.pipeline.map use }
  | handled {daemon : Daemon} (fetch : ContentId → Bool) (request : Message) (peer : Peer)
      (reached : Reached daemon) : Reached (daemon.handle fetch request peer).daemon

@[simp]
theorem readiness_handle (fetch : ContentId → Bool) (request : Message) (peer : Peer)
    (daemon : Daemon) : (daemon.handle fetch request peer).daemon.readiness = daemon.readiness := by
  rw [daemon_handle, after]
  cases daemon.effect request <;> rfl

theorem Reached.readiness_ne_verdict {daemon : Daemon} (reached : daemon.Reached)
    (denial : Option String) : daemon.readiness ≠ .verdict denial := by
  induction reached with
  | mounting info => simp [Daemon.mounting]
  | moved state reached ih => exact ih
  | locked lock reached ih => exact ih
  | attached pipeline reached ih => simp [attach]
  | worked use reached ih => exact ih
  | handled fetch request peer reached ih =>
      simpa using ih

def denials : List String :=
  [LockArbiter.stillStarting, Pipeline.parsingProjection, Pipeline.queueNotDrained]

theorem Reached.denial_mem {daemon : Daemon} (reached : daemon.Reached) {reason : String}
    (denied : daemon.denial = some reason) : reason ∈ denials := by
  unfold denial at denied
  split at denied
  · rw [← Option.some.inj denied]
    decide
  · rename_i denial foreign
    exact absurd foreign (reached.readiness_ne_verdict denial)
  · split at denied
    · unfold Pipeline.denial at denied
      split at denied
      · rw [← Option.some.inj denied]
        decide
      · split at denied
        · rw [← Option.some.inj denied]
          decide
        · contradiction
    · rw [← Option.some.inj denied]
      decide

theorem Reached.lineFeed_not_mem_denial {daemon : Daemon} (reached : daemon.Reached)
    (reason : String) (denied : daemon.denial = some reason) : '\n' ∉ reason.toList := by
  have oneLine : ∀ reason ∈ denials, '\n' ∉ reason.toList := by decide
  exact oneLine reason (reached.denial_mem denied)

structure Handled.Sent (lines : List String) (peer : Peer) (handled : Handled) : Prop where
  succeeded : handled.outcome = .ok ()
  received : handled.peer = ⟨peer.lines ++ lines, none⟩
  proper : ∀ line ∈ lines, Peer.Proper line

theorem Handled.Sent.eq_of_steady {lines : List String} {handled : Handled}
    (sent : handled.Sent lines .steady) : handled = ⟨.ok (), ⟨lines, none⟩, handled.daemon⟩ := by
  rcases handled with ⟨outcome, peer, daemon⟩
  have succeeded : outcome = .ok () := sent.succeeded
  have received : peer = ⟨lines, none⟩ := sent.received
  rw [succeeded, received]

theorem Handled.Sent.ite {condition : Prop} [Decidable condition] {lines others : List String}
    {peer : Peer} {handled other : Handled} (met : condition → handled.Sent lines peer)
    (unmet : ¬condition → other.Sent others peer) :
    (if condition then handled else other).Sent (if condition then lines else others) peer := by
  split
  · exact met ‹_›
  · exact unmet ‹_›

section Answers

variable (daemon : Daemon)

def unmountAnswer : UnmountResult :=
  if daemon.state = .ready ∨ daemon.state = .mountFailed then .completed
  else unmountRefusal daemon.state

def unmountLines : List String :=
  if daemon.state = .ready ∨ daemon.state = .mountFailed then ["Ack", "Complete"]
  else [WireCode.spelling (unmountRefusal daemon.state)]

def acquireAnswer (requester : Requester) : LockAnswer :=
  (daemon.lock.request daemon.state daemon.denial requester).1

def acquireMessage (body : Option String) : Message :=
  match Requester.fromBody body with
  | some requester => (daemon.acquireAnswer requester).toMessage
  | none =>
      match daemon.state with
      | .unmounting => .headerOnly (WireCode.spelling AcquireLockResult.unmountInProgress)
      | .ready => .headerOnly unknownRequest
      | _ => .headerOnly mountNotReady

def releaseAnswer : ReleaseLockResult :=
  if daemon.state = .ready then .released else .mountNotReady

def releaseLines (body : Option String) : List String :=
  if daemon.state = .ready ∧ Requester.fromBody body = none then []
  else [WireCode.spelling daemon.releaseAnswer]

def downloadAnswer (fetch : ContentId → Bool) (id : String) : DownloadObjectResult :=
  match daemon.readyPipeline? with
  | none => .mountNotReady
  | some _ =>
      match ContentId.parse id with
      | .error _ => .invalidSha
      | .ok id => if fetch id then .success else .downloadFailed

def pathsAnswer (version : String) : ModifiedPathsResult × List String :=
  match daemon.readyPipeline? with
  | none => (.mountNotReady, [])
  | some pipeline =>
      if version = Request.modifiedPathsVersion then (.success, pipeline.stores.paths.all)
      else (.invalidVersion, [])

def pathsMessage (version : String) : Message :=
  match daemon.pathsAnswer version with
  | (.success, paths) => ⟨WireCode.spelling ModifiedPathsResult.success, some (joinList paths)⟩
  | (refusal, _) => .headerOnly (WireCode.spelling refusal)

def postFetchAnswer : PostFetchResult :=
  match daemon.readyPipeline? with
  | none => .mountNotReady
  | some pipeline => if pipeline.isRunning then .queued else .mountNotReady

def postFetchMessage (body : Option String) : Message :=
  if daemon.readyPipeline?.isSome ∧ packsOfBody body = none then .headerOnly unknownRequest
  else .headerOnly (WireCode.spelling daemon.postFetchAnswer)

/-- What a mount answers to a request, line by line. -/
def replies (fetch : ContentId → Bool) (request : Message) : List String :=
  if request.header = Request.getStatus then [daemon.status.toLine]
  else if request.header = Request.unmount then daemon.unmountLines
  else if request.header = Request.acquireLock then [(daemon.acquireMessage request.body).toLine]
  else if request.header = Request.releaseLock then daemon.releaseLines request.body
  else if request.header = Request.downloadObject then
    [WireCode.spelling (daemon.downloadAnswer fetch (request.body.getD ""))]
  else if request.header = Request.modifiedPaths then
    [(daemon.pathsMessage (request.body.getD "")).toLine]
  else if request.header = Request.postFetch then [(daemon.postFetchMessage request.body).toLine]
  else [(Message.headerOnly unknownRequest).toLine]

theorem acquireMessage_of_named {body : Option String} {requester : Requester}
    (named : Requester.fromBody body = some requester) :
    daemon.acquireMessage body = (daemon.acquireAnswer requester).toMessage := by
  rw [acquireMessage, named]

end Answers

theorem proper_paths (paths : List String) :
    Peer.Proper (Message.toLine
      ⟨WireCode.spelling ModifiedPathsResult.success, some (joinList paths)⟩) := by
  have characters : (Message.toLine ⟨WireCode.spelling ModifiedPathsResult.success,
      some (joinList paths)⟩).toList = 'S' :: '|' :: (joinList paths).toList := by
    simp only [Message.toLine, String.toList_append]
    rfl
  refine Peer.proper_of_head characters (by decide) ?_
  simp [not_mem_joinList]

section Handlers

variable {peer : Peer} (steady : peer.accepts = none) (daemon : Daemon)

include steady

theorem sent_answerWith {message : Message} (proper : Peer.Proper message.toLine) :
    (daemon.answerWith message peer).Sent [message.toLine] peer := by
  have answered : peer.answer message = (.ok (), ⟨peer.lines ++ [message.toLine], none⟩) :=
    Peer.answerLine_of_proper proper steady
  rw [answerWith, answered]
  exact ⟨rfl, rfl, by simpa using proper⟩

theorem sent_answerCode {Code : Type} [WireCode Code] {code : Code}
    (proper : Peer.Proper (WireCode.spelling code)) :
    (daemon.answerCode code peer).Sent [WireCode.spelling code] peer := by
  exact @sent_answerWith peer steady daemon (.headerOnly (WireCode.spelling code)) proper

theorem sent_handleStatus : (daemon.handleStatus peer).Sent [daemon.status.toLine] peer := by
  have printable := daemon.status.printable_toLine
  have characters : daemon.status.toLine.toList = '\x7b' :: daemon.status.toLine.toList.tail := by
    rw [StatusReport.toLine, String.toList_ofList]
    rfl
  have proper : Peer.Proper daemon.status.toLine := by
    refine Peer.proper_of_head characters (by decide) ?_
    rw [← characters]
    exact printable.lineFeed_not_mem
  rw [handleStatus, Peer.answerLine_of_proper proper steady]
  exact ⟨rfl, rfl, by simpa using proper⟩

theorem sent_accepted_unmount (accepted : daemon.state = .ready ∨ daemon.state = .mountFailed) :
    (daemon.handleUnmount peer).Sent ["Ack", "Complete"] peer := by
  have moved : daemon.state.transition .unmounting = .ok .unmounting := by
    rcases accepted with ready | failed
    · rw [ready]
      rfl
    · rw [failed]
      rfl
  have acknowledged := Peer.writeLine_of_proper
    (show Peer.Proper (WireCode.spelling UnmountResult.acknowledged) by decide) steady
  have stillSteady : (⟨peer.lines ++ ["Ack"], none⟩ : Peer).accepts = none := rfl
  have completed := sent_answerWith stillSteady
    ({ daemon with state := .unmounting }.tearDown.requestExit .success)
    (show Peer.Proper (Message.headerOnly (WireCode.spelling UnmountResult.completed)).toLine by
      decide)
  unfold handleUnmount
  rw [moved]
  dsimp only
  rw [acknowledged]
  refine ⟨completed.succeeded, ?_, by decide⟩
  have received := completed.received
  rw [List.append_assoc] at received
  exact received

theorem sent_refused_unmount (refused : ¬(daemon.state = .ready ∨ daemon.state = .mountFailed)) :
    (daemon.handleUnmount peer).Sent [WireCode.spelling (unmountRefusal daemon.state)] peer := by
  have stays : daemon.state.transition .unmounting = .error ⟨daemon.state, .unmounting⟩ := by
    cases state : daemon.state <;> simp_all [MountState.transition, MountState.canBecome]
  rw [handleUnmount, stays]
  refine sent_answerCode steady daemon ?_
  cases daemon.state <;> decide

theorem sent_handleUnmount : (daemon.handleUnmount peer).Sent daemon.unmountLines peer := by
  unfold unmountLines
  split
  · exact sent_accepted_unmount steady daemon ‹_›
  · exact sent_refused_unmount steady daemon ‹_›

theorem sent_handleAcquireLock (reached : daemon.Reached) (body : Option String) :
    (daemon.handleAcquireLock body peer).Sent [(daemon.acquireMessage body).toLine] peer := by
  unfold handleAcquireLock acquireMessage
  cases Requester.fromBody body with
  | some requester =>
      exact sent_answerWith steady _
        (LockArbiter.proper_answer daemon.state reached.lineFeed_not_mem_denial requester daemon.lock)
  | none =>
      dsimp only
      cases daemon.state with
      | unmounting => exact sent_answerWith steady daemon (by decide)
      | ready => exact sent_answerWith steady daemon (by decide)
      | mounting => exact sent_answerWith steady daemon (by decide)
      | mountFailed => exact sent_answerWith steady daemon (by decide)

theorem sent_unclear_release {body : Option String} (ready : daemon.state = .ready)
    (unclear : Requester.fromBody body = none) :
    (daemon.handleReleaseLock body peer).Sent [] peer := by
  rw [handleReleaseLock, if_neg (by simp [ready]), unclear]
  refine ⟨rfl, ?_, by simp⟩
  rw [List.append_nil, ← steady]

theorem sent_handleReleaseLock (body : Option String) :
    (daemon.handleReleaseLock body peer).Sent (daemon.releaseLines body) peer := by
  unfold releaseLines releaseAnswer
  by_cases ready : daemon.state = .ready
  · cases named : Requester.fromBody body with
    | none =>
        rw [if_pos ⟨ready, rfl⟩]
        exact sent_unclear_release steady daemon ready named
    | some requester =>
        rw [if_neg (by simp), if_pos ready, handleReleaseLock, if_neg (not_not_intro ready), named]
        exact sent_answerCode steady _ (by decide)
  · rw [if_neg fun unclear => ready unclear.1, if_neg ready, handleReleaseLock, if_pos ready]
    exact sent_answerCode steady daemon (by decide)

theorem sent_handleDownloadObject (fetch : ContentId → Bool) (body : Option String) :
    (daemon.handleDownloadObject fetch body peer).Sent
      [WireCode.spelling (daemon.downloadAnswer fetch (body.getD ""))] peer := by
  unfold handleDownloadObject downloadAnswer
  cases daemon.readyPipeline? with
  | none =>
      dsimp only
      exact sent_answerCode steady daemon (by decide)
  | some pipeline =>
      cases ContentId.parse (body.getD "") with
      | error fault =>
          dsimp only
          exact sent_answerCode steady daemon (by decide)
      | ok id =>
          refine sent_answerCode steady _ ?_
          dsimp only
          cases fetch id <;> decide

theorem sent_handleModifiedPaths (body : Option String) :
    (daemon.handleModifiedPaths body peer).Sent
      [(daemon.pathsMessage (body.getD "")).toLine] peer := by
  unfold handleModifiedPaths pathsMessage pathsAnswer
  cases daemon.readyPipeline? with
  | none =>
      dsimp only
      exact sent_answerWith steady daemon (by decide)
  | some pipeline =>
      dsimp only
      by_cases spoken : body.getD "" = Request.modifiedPathsVersion
      · rw [if_neg (not_not_intro spoken), if_pos spoken]
        exact sent_answerWith steady daemon (proper_paths pipeline.stores.paths.all)
      · rw [if_pos spoken, if_neg spoken]
        exact sent_answerWith steady daemon (by decide)

theorem sent_handlePostFetch (body : Option String) :
    (daemon.handlePostFetch body peer).Sent [(daemon.postFetchMessage body).toLine] peer := by
  unfold handlePostFetch postFetchMessage postFetchAnswer
  cases daemon.readyPipeline? with
  | none => exact sent_answerCode steady daemon (by decide)
  | some pipeline =>
      cases packsOfBody body with
      | none =>
          rw [if_pos ⟨rfl, rfl⟩]
          exact sent_answerWith steady daemon (by decide)
      | some packs =>
          rw [if_neg (by simp)]
          dsimp only
          by_cases running : pipeline.isRunning
          · rw [if_pos running, if_pos running]
            exact sent_answerWith steady _ (by decide)
          · rw [if_neg running, if_neg running]
            exact sent_answerWith steady daemon (by decide)

theorem sent_handle (reached : daemon.Reached) (fetch : ContentId → Bool) (request : Message) :
    (daemon.handle fetch request peer).Sent (daemon.replies fetch request) peer := by
  unfold handle replies
  refine .ite (fun _ => sent_handleStatus steady daemon) fun _ => ?_
  refine .ite (fun _ => sent_handleUnmount steady daemon) fun _ => ?_
  refine .ite (fun _ => sent_handleAcquireLock steady daemon reached request.body) fun _ => ?_
  refine .ite (fun _ => sent_handleReleaseLock steady daemon request.body) fun _ => ?_
  refine .ite (fun _ => sent_handleDownloadObject steady daemon fetch request.body) fun _ => ?_
  refine .ite (fun _ => sent_handleModifiedPaths steady daemon request.body) fun _ => ?_
  refine .ite (fun _ => sent_handlePostFetch steady daemon request.body) fun _ => ?_
  exact sent_answerWith steady daemon (by decide)

end Handlers

def Unmounts (daemon : Daemon) (request : Message) : Prop :=
  request.header = Request.unmount ∧ (daemon.state = .ready ∨ daemon.state = .mountFailed)

def LosesTrack (daemon : Daemon) (request : Message) : Prop :=
  request.header = Request.releaseLock ∧ daemon.state = .ready ∧
    Requester.fromBody request.body = none

theorem replies_of_unmounts {daemon : Daemon} {request : Message}
    (unmounts : daemon.Unmounts request) (fetch : ContentId → Bool) :
    daemon.replies fetch request = ["Ack", "Complete"] := by
  rw [replies, if_neg (by rw [unmounts.1]; decide), if_pos unmounts.1, unmountLines,
    if_pos unmounts.2]

theorem replies_of_losesTrack {daemon : Daemon} {request : Message}
    (losesTrack : daemon.LosesTrack request) (fetch : ContentId → Bool) :
    daemon.replies fetch request = [] := by
  obtain ⟨asked, unclear⟩ := losesTrack
  rw [replies, if_neg (by rw [asked]; decide), if_neg (by rw [asked]; decide),
    if_neg (by rw [asked]; decide), if_pos asked, releaseLines, if_pos unclear]

theorem length_replies {daemon : Daemon} {request : Message} (goesOn : ¬daemon.Unmounts request)
    (keepsTrack : ¬daemon.LosesTrack request) (fetch : ContentId → Bool) :
    (daemon.replies fetch request).length = 1 := by
  unfold replies
  split
  · rfl
  split
  · rename_i asked
    rw [unmountLines, if_neg fun accepted => goesOn ⟨asked, accepted⟩]
    rfl
  split
  · rfl
  split
  · rename_i asked
    rw [releaseLines, if_neg fun unclear => keepsTrack ⟨asked, unclear⟩]
    rfl
  split
  · rfl
  split
  · rfl
  split
  · rfl
  · rfl

/-- An unmount that is not refused is acknowledged before it is answered, a release that loses track
of the lock is not answered, and every other request is answered by one line. No line has to be
replaced, since every one can be framed. -/
theorem one_line_per_request {daemon : Daemon} (reached : daemon.Reached) {peer : Peer}
    (steady : peer.accepts = none) (fetch : ContentId → Bool) (request : Message) :
    ∃ written : List String,
      (daemon.handle fetch request peer).outcome = .ok () ∧
      (daemon.handle fetch request peer).peer = ⟨peer.lines ++ written, none⟩ ∧
      (∀ line ∈ written, '\n' ∉ line.toList ∧ line ≠ Peer.internalError) ∧
      (daemon.Unmounts request → written = ["Ack", "Complete"]) ∧
      (daemon.LosesTrack request → written = []) ∧
      (¬daemon.Unmounts request → ¬daemon.LosesTrack request → written.length = 1) := by
  have sent := sent_handle steady daemon reached fetch request
  refine ⟨daemon.replies fetch request, sent.succeeded, sent.received, ?_, ?_, ?_, ?_⟩
  · intro line listed
    exact ⟨(sent.proper line listed).noLineFeed, (sent.proper line listed).notReplaced⟩
  · exact fun unmounts => replies_of_unmounts unmounts fetch
  · exact fun losesTrack => replies_of_losesTrack losesTrack fetch
  · exact fun goesOn keepsTrack => length_replies goesOn keepsTrack fetch

def idlePipeline : Pipeline :=
  { Pipeline.ofStores ⟨⟨.empty, Pool.start ⟨1, 1⟩⟩, .empty, .empty⟩ with projectionParsed := true }

def heldWithLineBreak : Daemon :=
  { (mounting ⟨"/src", "/cache", "", none⟩).attach idlePipeline with
    state := .ready
    lock := ⟨some (.process ⟨7, false, false, "git\ncommit", ""⟩), none, [7]⟩ }

theorem reached_heldWithLineBreak : heldWithLineBreak.Reached :=
  .locked ⟨some (.process ⟨7, false, false, "git\ncommit", ""⟩), none, [7]⟩
    (.moved .ready (.attached idlePipeline (.mounting ⟨"/src", "/cache", "", none⟩)))

theorem one_line_for_holder_with_line_break :
    ∃ line, (heldWithLineBreak.handle (fun _ => false)
        ⟨Request.acquireLock, some "[8,false,false,\"git gc\",\"\"]"⟩ .steady).peer =
          ⟨[line], none⟩ ∧
      '\n' ∉ line.toList ∧
      line = "DenyGit|\x7b\"pid\":7,\"is_elevated\":false,\"check_availability_only\":false," ++
        "\"parsed_command\":\"git\\ncommit\",\"git_command_session_id\":\"\"\x7d" := by
  obtain ⟨written, _, received, framed, _, _, once⟩ := one_line_per_request
    reached_heldWithLineBreak (show Peer.steady.accepts = none from rfl) (fun _ => false)
    ⟨Request.acquireLock, some "[8,false,false,\"git gc\",\"\"]"⟩
  have single := once (fun unmounts => absurd unmounts.1 (by decide))
    (fun losesTrack => absurd losesTrack.1 (by decide))
  obtain ⟨line, rfl⟩ := List.length_eq_one_iff.mp single
  have denied : (heldWithLineBreak.handle (fun _ => false)
      ⟨Request.acquireLock, some "[8,false,false,\"git gc\",\"\"]"⟩ .steady).peer =
      ⟨["DenyGit|\x7b\"pid\":7,\"is_elevated\":false,\"check_availability_only\":false," ++
        "\"parsed_command\":\"git\\ncommit\",\"git_command_session_id\":\"\"\x7d"], none⟩ := by
    decide +kernel
  have same := congrArg Peer.lines (received.symm.trans denied)
  exact ⟨line, received, (framed line List.mem_cons_self).1, List.singleton_inj.mp same⟩

end Daemon

end Enlistment
