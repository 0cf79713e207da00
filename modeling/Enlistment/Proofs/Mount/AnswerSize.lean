import Enlistment.Proofs.Control.Bodies
import Enlistment.Proofs.Control.Stream
import Enlistment.Proofs.Control.Vocabulary
import Enlistment.Proofs.Mount.Answers
import Enlistment.Proofs.Mount.Effect
import Enlistment.Proofs.Mount.MessageStream
import Enlistment.Proofs.Mount.Provenance
import Enlistment.Proofs.Mount.Snapshot

/-!
How long an answer can be. A mount does not measure what it says, but a reader refuses a line that
is too long. Three answers grow with what the mount knows: what it says of itself, the name of the
process that has the lock, and the list of modified paths. All others are short.
-/

namespace Enlistment

open Control

namespace Control

/-- A reader takes a line that fits, and refuses one that does not. -/
theorem readLine_of_written {line : String} (isClosed : Bool) (before rest : ByteArray)
    (noLineFeed : '\n' ∉ line.toList) (noCarriageReturn : '\r' ∉ line.toList) :
    readLine isClosed (before ++ (line.push '\n').toUTF8 ++ rest) before.size =
      if line.utf8ByteSize ≤ maxMessageBytes then
        .line ⟨line, (before ++ (line.push '\n').toUTF8).size⟩
      else .failed .messageTooLarge (before.size + maxMessageBytes + 1) := by
  split
  · rename_i fits
    have last : line.toList.getLast? ≠ some '\r' := fun final =>
      noCarriageReturn (List.mem_of_getLast? final)
    exact readLine_of_exact isClosed before rest ⟨⟨noLineFeed, fits⟩, last⟩
  · rename_i tooLong
    exact readLine_of_oversized isClosed before rest noLineFeed (Nat.lt_of_not_le tooLong)

theorem Message.framable_of_whole {header body : String}
    (noBar : '|' ∉ header.toList) (noLineFeed : '\n' ∉ header.toList)
    (noCarriageReturn : '\r' ∉ header.toList) (whole : IsWhole body)
    (fits : header.utf8ByteSize + 1 + body.utf8ByteSize ≤ maxMessageBytes) :
    Framable ⟨header, some body⟩ := by
  refine ⟨noBar, noLineFeed, ?_, ?_, ?_⟩
  · rintro other ⟨⟩
    exact ⟨whole.notEmpty, whole.noLineFeed⟩
  · intro last
    have listed := List.mem_of_getLast? last
    simp [noCarriageReturn, whole.noCarriageReturn] at listed
  · simp only [toLine, String.utf8ByteSize_append]
    exact fits

theorem Requester.utf8ByteSize_heldBy (holder : Requester) :
    (LockAnswer.heldBy holder).toMessage.toLine.utf8ByteSize = 8 + holder.toBody.utf8ByteSize := by
  simp only [LockAnswer.heldBy, LockAnswer.toMessage, Message.toLine, String.utf8ByteSize_append]
  rfl

def Requester.asking : Requester :=
  ⟨0, false, true, "", ""⟩

end Control

theorem ModifiedPaths.utf8ByteSize_message (paths : ModifiedPaths) :
    paths.message.toLine.utf8ByteSize = 2 + (paths.all.map listedSize).sum := by
  simp only [message, Message.toLine, String.utf8ByteSize_append, utf8ByteSize_joinList]
  rfl

structure Brief (line : String) : Prop where
  noCarriageReturn : '\r' ∉ line.toList
  size : line.utf8ByteSize ≤ 80

instance (line : String) : Decidable (Brief line) :=
  decidable_of_iff ('\r' ∉ line.toList ∧ line.utf8ByteSize ≤ 80)
    ⟨fun both => ⟨both.1, both.2⟩, fun brief => ⟨brief.noCarriageReturn, brief.size⟩⟩

namespace Daemon

/-- What a mount may answer: something short, or one of the answers that grow with what it knows. -/
inductive MaySend (daemon : Daemon) : String → Prop where
  | brief {line : String} (brief : Brief line) : MaySend daemon line
  | status : MaySend daemon daemon.status.toLine
  | holder {holder : Requester} (ready : daemon.state = .ready)
      (held : daemon.lock.process? = some holder) :
      MaySend daemon (LockAnswer.heldBy holder).toMessage.toLine
  | paths {pipeline : Pipeline} (serving : daemon.readyPipeline? = some pipeline) :
      MaySend daemon pipeline.stores.paths.message.toLine

theorem maySend_answer {daemon : Daemon} (reached : daemon.Reached) (requester : Requester) :
    daemon.MaySend (daemon.acquireAnswer requester).toMessage.toLine := by
  by_cases ready : daemon.state = .ready
  · rcases daemon.lock.answer_cases daemon.state daemon.denial requester with
      ⟨result, _, _, same⟩ | ⟨holder, held, same⟩ | ⟨reason, same, source⟩
    · rw [acquireAnswer, same]
      exact .brief (by cases result <;> decide)
    · rw [acquireAnswer, same]
      exact .holder ready held
    · have known : reason ∈ LockArbiter.heldByMount :: denials := by
        rcases source with rfl | denied
        · exact List.mem_cons_self
        · exact List.mem_cons_of_mem _ (reached.denial_mem denied)
      have brief : ∀ reason ∈ LockArbiter.heldByMount :: denials,
          Brief (LockAnswer.denied reason).toMessage.toLine := by
        decide
      rw [acquireAnswer, same]
      exact .brief (brief reason known)
  · rw [acquireAnswer, LockArbiter.request_of_unready ready]
    dsimp only
    split <;> exact .brief (by decide)

section Replies

variable {daemon : Daemon}

theorem maySend_singleton {line : String} (known : daemon.MaySend line) :
    ∀ other ∈ [line], daemon.MaySend other := by
  intro other listed
  rw [List.mem_singleton.mp listed]
  exact known

theorem maySend_unmountLines : ∀ line ∈ daemon.unmountLines, daemon.MaySend line := by
  unfold unmountLines
  split
  · have brief : ∀ line ∈ ["Ack", "Complete"], Brief line := by decide
    exact fun line listed => .brief (brief line listed)
  · refine maySend_singleton (.brief ?_)
    cases daemon.state <;> decide

theorem maySend_acquireMessage (reached : daemon.Reached) (body : Option String) :
    daemon.MaySend (daemon.acquireMessage body).toLine := by
  unfold acquireMessage
  split
  · exact maySend_answer reached _
  · split <;> exact .brief (by decide)

theorem maySend_releaseLines (body : Option String) :
    ∀ line ∈ daemon.releaseLines body, daemon.MaySend line := by
  unfold releaseLines
  split
  · simp
  · refine maySend_singleton (.brief ?_)
    cases daemon.releaseAnswer <;> decide

theorem maySend_pathsMessage (version : String) :
    daemon.MaySend (daemon.pathsMessage version).toLine := by
  unfold pathsMessage pathsAnswer
  split
  · rename_i paths answered
    split at answered
    · exact absurd answered (by simp)
    · rename_i pipeline serving
      split at answered
      · obtain rfl := (Prod.mk.inj answered).2
        exact .paths serving
      · exact absurd answered (by simp)
  · rename_i refusal paths different answered
    exact .brief (by cases refusal <;> decide)

theorem maySend_postFetchMessage (body : Option String) :
    daemon.MaySend (daemon.postFetchMessage body).toLine := by
  unfold postFetchMessage
  split
  · exact .brief (by decide)
  · exact .brief (by cases daemon.postFetchAnswer <;> decide)

theorem maySend_replies (reached : daemon.Reached) (fetch : ContentId → Bool) (request : Message) :
    ∀ line ∈ daemon.replies fetch request, daemon.MaySend line := by
  unfold replies
  split
  · exact maySend_singleton .status
  split
  · exact maySend_unmountLines
  split
  · exact maySend_singleton (maySend_acquireMessage reached request.body)
  split
  · exact maySend_releaseLines request.body
  split
  · refine maySend_singleton (.brief ?_)
    cases daemon.downloadAnswer fetch (request.body.getD "") <;> decide
  split
  · exact maySend_singleton (maySend_pathsMessage _)
  split
  · exact maySend_singleton (maySend_postFetchMessage request.body)
  · exact maySend_singleton (.brief (by decide))

end Replies

section Sizes

variable {daemon : Daemon}

theorem Handled.Sent.lines_eq {lines : List String} {handled : Handled}
    (sent : handled.Sent lines .steady) : handled.peer.lines = lines := by
  rw [sent.received]
  rfl

theorem maySend_of_sent (reached : daemon.Reached) {fetch : ContentId → Bool} {request : Message}
    {line : String} (listed : line ∈ (daemon.handle fetch request .steady).peer.lines) :
    '\n' ∉ line.toList ∧ daemon.MaySend line := by
  have sent := sent_handle (show Peer.steady.accepts = none from rfl) daemon reached fetch request
  rw [sent.lines_eq] at listed
  exact ⟨(sent.proper line listed).noLineFeed, maySend_replies reached fetch request line listed⟩

theorem handle_acquireLock (fetch : ContentId → Bool) (body : Option String) (peer : Peer) :
    daemon.handle fetch ⟨Request.acquireLock, body⟩ peer = daemon.handleAcquireLock body peer :=
  rfl

theorem lines_of_asking (reached : daemon.Reached) (fetch : ContentId → Bool)
    (ready : daemon.state = .ready) {holder : Requester}
    (held : daemon.lock.process? = some holder) :
    (daemon.handle fetch ⟨Request.acquireLock, some Requester.asking.toBody⟩ .steady).peer.lines =
      [(LockAnswer.heldBy holder).toMessage.toLine] := by
  have asked : Requester.fromBody (some Requester.asking.toBody) = some .asking :=
    Requester.fromBody_toBody (by decide)
  have answer : daemon.acquireAnswer .asking = .heldBy holder := by
    rw [acquireAnswer, ready]
    exact LockArbiter.availability_of_held held daemon.denial
  rw [handle_acquireLock, (sent_handleAcquireLock rfl daemon reached _).lines_eq,
    acquireMessage_of_named daemon asked, answer]

/-- There is a request for every long answer. -/
theorem MaySend.asked {line : String} (known : daemon.MaySend line) (reached : daemon.Reached)
    (fetch : ContentId → Bool) :
    Brief line ∨ ∃ request, line ∈ (daemon.handle fetch request .steady).peer.lines := by
  have steady : Peer.steady.accepts = none := rfl
  cases known with
  | brief brief => exact .inl brief
  | status =>
      refine .inr ⟨⟨Request.getStatus, none⟩, ?_⟩
      have handled : daemon.handle fetch ⟨Request.getStatus, none⟩ .steady =
          daemon.handleStatus .steady := rfl
      rw [handled, (sent_handleStatus steady daemon).lines_eq]
      exact List.mem_cons_self
  | holder ready held =>
      refine .inr ⟨⟨Request.acquireLock, some Requester.asking.toBody⟩, ?_⟩
      rw [lines_of_asking reached fetch ready held]
      exact List.mem_cons_self
  | @paths pipeline serving =>
      refine .inr ⟨⟨Request.modifiedPaths, some Request.modifiedPathsVersion⟩, ?_⟩
      have handled : daemon.handle fetch
          ⟨Request.modifiedPaths, some Request.modifiedPathsVersion⟩ .steady =
          daemon.handleModifiedPaths (some Request.modifiedPathsVersion) .steady := rfl
      have answer : daemon.pathsMessage Request.modifiedPathsVersion =
          pipeline.stores.paths.message := by
        simp only [pathsMessage, pathsAnswer, serving, if_pos, ModifiedPaths.message]
      rw [handled, (sent_handleModifiedPaths steady daemon _).lines_eq, Option.getD_some, answer]
      exact List.mem_cons_self

theorem MaySend.noCarriageReturn {line : String} (known : daemon.MaySend line) :
    '\r' ∉ line.toList := by
  cases known with
  | brief brief => exact brief.noCarriageReturn
  | status => exact daemon.status.printable_toLine.carriageReturn_not_mem
  | @holder holder ready held =>
      have body := holder.printable_toBody.carriageReturn_not_mem
      have parts : (LockAnswer.heldBy holder).toMessage.toLine.toList =
          "DenyGit".toList ++ '|' :: holder.toBody.toList := Message.toList_toLine _ _
      simp [parts, body]
  | @paths pipeline serving =>
      have body : '\r' ∉ (joinList pipeline.stores.paths.all).toList :=
        not_mem_joinList (by decide) _
      have parts : pipeline.stores.paths.message.toLine.toList =
          "S".toList ++ '|' :: (joinList pipeline.stores.paths.all).toList :=
        Message.toList_toLine _ _
      simp [parts, body]

theorem maySend_fits_iff :
    (∀ line, daemon.MaySend line → line.utf8ByteSize ≤ maxMessageBytes) ↔
      daemon.status.toLine.utf8ByteSize ≤ maxMessageBytes ∧
      (daemon.state = .ready → ∀ holder, daemon.lock.process? = some holder →
        8 + holder.toBody.utf8ByteSize ≤ maxMessageBytes) ∧
      ∀ pipeline, daemon.readyPipeline? = some pipeline →
        2 + (pipeline.stores.paths.all.map listedSize).sum ≤ maxMessageBytes := by
  constructor
  · intro fits
    refine ⟨fits _ .status, ?_, ?_⟩
    · intro ready holder held
      rw [← Requester.utf8ByteSize_heldBy]
      exact fits _ (.holder ready held)
    · intro pipeline serving
      rw [← ModifiedPaths.utf8ByteSize_message]
      exact fits _ (.paths serving)
  · rintro ⟨status, holder, paths⟩ line known
    cases known with
    | brief brief => exact Nat.le_trans brief.size (by decide)
    | status => exact status
    | holder ready held =>
        rw [Requester.utf8ByteSize_heldBy]
        exact holder ready _ held
    | paths serving =>
        rw [ModifiedPaths.utf8ByteSize_message]
        exact paths _ serving

end Sizes

end Daemon

def faces (count : Nat) : String :=
  String.ofList (List.replicate count '😀')

theorem utf8Len_quote_faces (count : Nat) :
    String.utf8Len (Json.quote (faces count)) = 4 * count + 2 := by
  have plain : ∀ character ∈ (faces count).toList, Json.Plain character := by
    intro character listed
    rw [faces, String.toList_ofList] at listed
    rw [List.eq_of_mem_replicate listed]
    decide
  have face : '😀'.utf8Size = 4 := by decide
  rw [Json.utf8Len_quote_of_plain plain, faces, Text.utf8ByteSize_ofList, Text.utf8Len_replicate,
    face, Nat.mul_comm]

def wordy (count : Nat) : Requester :=
  ⟨1, false, false, faces count, faces count⟩

theorem utf8ByteSize_toArrayBody_wordy (count : Nat) :
    (wordy count).toArrayBody.utf8ByteSize = 8 * count + 21 := by
  have fixed : String.utf8Len (Json.writeNatural 1) = 1 ∧
      String.utf8Len (Json.writeBoolean false) = 5 ∧ '['.utf8Size = 1 ∧ ','.utf8Size = 1 ∧
      ']'.utf8Size = 1 := by
    decide
  obtain ⟨pid, boolean, opening, comma, closing⟩ := fixed
  rw [Requester.toArrayBody, Text.utf8ByteSize_ofList]
  simp only [Requester.written, wordy, List.map_cons, List.map_nil, Json.writeArray, Json.separate,
    String.utf8Len_append, String.utf8Len_cons, String.utf8Len_nil, utf8Len_quote_faces, pid,
    boolean, opening, comma, closing]
  omega

theorem le_utf8ByteSize_toBody_wordy (count : Nat) :
    8 * count + 49 ≤ (wordy count).toBody.utf8ByteSize := by
  have names : String.utf8Len (Json.quote "check_availability_only") = 25 ∧
      String.utf8Len (Json.quote "git_command_session_id") = 24 := by
    decide
  rw [Requester.toBody, Text.utf8ByteSize_ofList]
  simp only [wordy, List.map_cons, List.map_nil, Json.writeObject, Json.separate,
    String.utf8Len_append, String.utf8Len_cons, String.utf8Len_nil, utf8Len_quote_faces, names.1,
    names.2]
  omega

def wordyRequest (count : Nat) : Message :=
  ⟨Request.acquireLock, some (wordy count).toArrayBody⟩

theorem framable_wordyRequest {count : Nat} (fits : 8 * count + 33 ≤ maxMessageBytes) :
    (wordyRequest count).Framable := by
  have whole := (wordy count).isWhole_toArrayBody
  refine Message.framable_of_whole (by decide) (by decide) (by decide) whole ?_
  have header : Request.acquireLock.utf8ByteSize = 11 := by decide
  rw [utf8ByteSize_toArrayBody_wordy, header]
  omega

theorem LockArbiter.request_of_free {arbiter : LockArbiter} (free : arbiter.holder = none)
    {requester : Requester} (wants : requester.checkAvailabilityOnly = false) :
    ∃ taken, arbiter.request .ready none requester = (.ofResult .acquired, taken) ∧
      taken.process? = some requester := by
  have openTo : arbiter.OpenTo requester.pid := .inl (owner?_eq_none_iff.mpr free)
  refine ⟨(arbiter.grant requester).watch requester.pid, ?_, ?_⟩
  · simp only [request, wants, Bool.false_eq_true, if_false, decide_of_open openTo]
  · unfold watch
    split <;> rfl

namespace Daemon

def freshMount : Daemon :=
  (Machine.becomeReady
    ((mounting ⟨"/src", "/cache", "", none⟩).startPipeline ⟨1, 1⟩ .empty).2.2).2

theorem reached_freshMount : freshMount.Reached := by
  have made : freshMount =
      { (mounting ⟨"/src", "/cache", "", none⟩).attach
          { Pipeline.fresh ⟨1, 1⟩ with projectionParsed := true } with state := .ready } := by
    decide +kernel
  rw [made]
  exact .moved .ready (.attached _ (.mounting _))

theorem handle_wordyRequest {daemon : Daemon} (ready : daemon.state = .ready)
    (willing : daemon.denial = none) (free : daemon.lock.holder = none)
    (fetch : ContentId → Bool) (count : Nat) :
    ∃ after, daemon.handle fetch (wordyRequest count) .steady =
        ⟨.ok (), ⟨["LockAcquired"], none⟩, after⟩ ∧
      after.state = .ready ∧ after.lock.process? = some (wordy count) := by
  obtain ⟨taken, granted, held⟩ := LockArbiter.request_of_free free
    (show (wordy count).checkAvailabilityOnly = false from rfl)
  have answered : daemon.lock.request daemon.state daemon.denial (wordy count) =
      (.ofResult .acquired, taken) := by
    rw [ready, willing]
    exact granted
  have bound : (wordy count).pid < Requester.pidBound := show 1 < Requester.pidBound by decide
  have proper : Peer.Proper (LockAnswer.ofResult .acquired).toMessage.toLine := by decide
  have sent := @sent_answerWith .steady rfl { daemon with lock := taken } _ proper
  refine ⟨{ daemon with lock := taken }, ?_, ready, held⟩
  rw [wordyRequest, handle_acquireLock, handleAcquireLock, Requester.fromBody_toArrayBody bound]
  dsimp only
  rw [answered]
  dsimp only
  rw [sent.eq_of_steady, daemon_answerWith]
  rfl

/-- A process may be named by fewer bytes in its request than in the answers about it. -/
theorem wordy_holder_too_long_to_name {count : Nat} (fits : 8 * count + 33 ≤ maxMessageBytes)
    (beyond : maxMessageBytes < 8 * count + 57) :
    ∃ daemon line,
      (wordyRequest count).Framable ∧ freshMount.Reached ∧
      freshMount.handle (fun _ => false) (wordyRequest count) .steady =
        ⟨.ok (), ⟨["LockAcquired"], none⟩, daemon⟩ ∧
      (daemon.handle (fun _ => false) ⟨Request.acquireLock, some Requester.asking.toBody⟩
        .steady).peer.lines = [line] ∧
      maxMessageBytes < line.utf8ByteSize ∧
      readLine false (line.push '\n').toUTF8 0 =
        .failed .messageTooLarge (maxMessageBytes + 1) := by
  obtain ⟨daemon, acquired, ready, held⟩ := handle_wordyRequest
    (show freshMount.state = .ready by decide +kernel) (by decide +kernel) (by decide +kernel)
    (fun _ => false) count
  have reached : daemon.Reached := by
    have after := Reached.handled (fun _ => false) (wordyRequest count) .steady reached_freshMount
    rw [acquired] at after
    exact after
  have answered := lines_of_asking reached (fun _ => false) ready held
  have tooLong : maxMessageBytes <
      (LockAnswer.heldBy (wordy count)).toMessage.toLine.utf8ByteSize := by
    have bound := le_utf8ByteSize_toBody_wordy count
    rw [Requester.utf8ByteSize_heldBy]
    omega
  have noLineFeed := (maySend_of_sent reached (answered ▸ List.mem_singleton_self _)).1
  have refused := readLine_of_oversized false ByteArray.empty ByteArray.empty noLineFeed tooLong
  rw [ByteArray.append_empty, ByteArray.empty_append, ByteArray.size_empty, Nat.zero_add] at refused
  exact ⟨daemon, _, framable_wordyRequest fits, reached_freshMount, acquired, answered, tooLong,
    refused⟩

/-- What a mount sends is read as it was sent if it fits, and refused as too large if it does not.
Everything fits exactly if what the mount says of itself, the process that has the lock and the
list of modified paths do, which nothing ensures. -/
theorem answers_readable_iff {daemon : Daemon} (reached : daemon.Reached)
    (fetch : ContentId → Bool) :
    (∀ request, ∀ line ∈ (daemon.handle fetch request .steady).peer.lines,
      ∀ isClosed before rest,
        readLine isClosed (before ++ (line.push '\n').toUTF8 ++ rest) before.size =
          if line.utf8ByteSize ≤ maxMessageBytes then
            .line ⟨line, (before ++ (line.push '\n').toUTF8).size⟩
          else .failed .messageTooLarge (before.size + maxMessageBytes + 1)) ∧
    ((∀ request, ∀ line ∈ (daemon.handle fetch request .steady).peer.lines,
        line.utf8ByteSize ≤ maxMessageBytes) ↔
      daemon.status.toLine.utf8ByteSize ≤ maxMessageBytes ∧
      (daemon.state = .ready → ∀ holder, daemon.lock.process? = some holder →
        8 + holder.toBody.utf8ByteSize ≤ maxMessageBytes) ∧
      ∀ pipeline, daemon.readyPipeline? = some pipeline →
        2 + (pipeline.stores.paths.all.map listedSize).sum ≤ maxMessageBytes) := by
  constructor
  · intro request line listed isClosed before rest
    obtain ⟨noLineFeed, known⟩ := maySend_of_sent reached listed
    exact readLine_of_written isClosed before rest noLineFeed known.noCarriageReturn
  · rw [← maySend_fits_iff]
    constructor
    · intro fits line known
      rcases known.asked reached fetch with brief | ⟨request, listed⟩
      · exact Nat.le_trans brief.size (by decide)
      · exact fits request line listed
    · intro fits request line listed
      exact fits line (maySend_of_sent reached listed).2

theorem answer_of_holder_with_line_break_readable :
    ∃ line, (heldWithLineBreak.handle (fun _ => false)
        ⟨Request.acquireLock, some "[8,false,false,\"git gc\",\"\"]"⟩ .steady).peer.lines = [line] ∧
      readLine false (line.push '\n').toUTF8 0 = .line ⟨line, (line.push '\n').toUTF8.size⟩ := by
  obtain ⟨read, all⟩ := answers_readable_iff reached_heldWithLineBreak (fun _ => false)
  have fits : ∀ request,
      ∀ line ∈ (heldWithLineBreak.handle (fun _ => false) request .steady).peer.lines,
        line.utf8ByteSize ≤ maxMessageBytes := by
    refine all.mpr ⟨by decide +kernel, ?_, ?_⟩
    · rintro - holder ⟨⟩
      decide +kernel
    · rintro pipeline ⟨⟩
      decide +kernel
  have single : ∃ line, (heldWithLineBreak.handle (fun _ => false)
      ⟨Request.acquireLock, some "[8,false,false,\"git gc\",\"\"]"⟩ .steady).peer.lines = [line] :=
    List.length_eq_one_iff.mp (by decide +kernel)
  obtain ⟨line, answered⟩ := single
  have listed := answered ▸ List.mem_singleton_self line
  have found := read _ line listed false ByteArray.empty ByteArray.empty
  rw [if_pos (fits _ line listed), ByteArray.append_empty, ByteArray.empty_append] at found
  exact ⟨line, answered, found⟩

/-- A mount hands out the lock to a process that it cannot name on a line that a reader takes. -/
theorem holder_too_long_to_name :
    ∃ daemon line,
      (wordyRequest 8388603).Framable ∧ freshMount.Reached ∧
      freshMount.handle (fun _ => false) (wordyRequest 8388603) .steady =
        ⟨.ok (), ⟨["LockAcquired"], none⟩, daemon⟩ ∧
      (daemon.handle (fun _ => false) ⟨Request.acquireLock, some Requester.asking.toBody⟩
        .steady).peer.lines = [line] ∧
      maxMessageBytes < line.utf8ByteSize ∧
      readLine false (line.push '\n').toUTF8 0 =
        .failed .messageTooLarge (maxMessageBytes + 1) :=
  wordy_holder_too_long_to_name (by decide) (by decide)

end Daemon

end Enlistment
