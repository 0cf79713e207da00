import Enlistment.Proofs.Control.Stream
import Enlistment.Proofs.Mount.Answers
import Enlistment.Proofs.Mount.Exchange
import Mathlib.Data.List.Induction

/-!
A client that hangs up in the middle of a line. What was sent up to the last line feed has been
answered by then, and what is behind it counts as a request of its own, as if its line feed had come.
Nothing else is different from a client that hung up behind the last line feed.
-/

namespace Enlistment

open Control

namespace ControlLink

section Serving

variable (fetch : ContentId → Bool) (peer : Peer) (daemon : Daemon)

theorem serveFrom_append (isEnded : Bool) (bytes more : ByteArray) (position : Nat) :
    serveFrom fetch isEnded (bytes ++ more) position peer daemon =
      let served := serveFrom fetch false bytes position peer daemon
      if served.hungUp then served
      else serveFrom fetch isEnded (bytes ++ more) served.position served.peer served.daemon := by
  have sameRead : ∀ {position : Nat}, readLine false bytes position ≠ .waiting →
      readLine isEnded (bytes ++ more) position = readLine false bytes position :=
    readLine_append isEnded more
  fun_induction serveFrom fetch false bytes position peer daemon with
  | case1 position peer daemon found read handled done outcome ih =>
      rw [serveFrom_eq, sameRead (by simp [read]), read]
      dsimp only
      rw [outcome]
      exact ih
  | case2 position peer daemon found read handled error outcome =>
      rw [serveFrom_eq, sameRead (by simp [read]), read]
      dsimp only
      rw [outcome]
      rfl
  | case3 position peer daemon read => rfl
  | case4 position peer daemon read =>
      rw [serveFrom_eq, sameRead (by simp [read]), read]
      rfl
  | case5 position peer daemon error next read =>
      rw [serveFrom_eq, sameRead (by simp [read]), read]
      rfl

theorem readLine_served {bytes : ByteArray} {position : Nat} (inside : position ≤ bytes.size)
    (serving : (serveFrom fetch false bytes position peer daemon).hungUp = false) :
    (serveFrom fetch false bytes position peer daemon).position ≤ bytes.size ∧
      readLine false bytes (serveFrom fetch false bytes position peer daemon).position =
        .waiting := by
  fun_induction serveFrom fetch false bytes position peer daemon with
  | case1 position peer daemon found read handled done outcome ih =>
      exact ih (readLineLimited_bounds read).2 serving
  | case2 position peer daemon found read handled error outcome =>
      exact absurd serving (by simp)
  | case3 position peer daemon read => exact ⟨inside, read⟩
  | case4 position peer daemon read => exact absurd serving (by simp)
  | case5 position peer daemon error next read => exact absurd serving (by simp)

/-- The request that a mount makes of a line whose end never came. -/
def unfinishedRequest? (tail : ByteArray) : Option Message :=
  if tail.size = 0 ∨ maxMessageBytes < tail.size then none
  else (String.fromUTF8? (dropCarriageReturn tail)).map Message.fromLine

theorem position_of_serving {stream : ByteArray} {position : Nat}
    (inside : position ≤ wholeSize stream)
    (serving : (serveFrom fetch false (stream.extract 0 (wholeSize stream)) position peer
      daemon).hungUp = false) :
    (serveFrom fetch false (stream.extract 0 (wholeSize stream)) position peer daemon).position =
      wholeSize stream := by
  have bound : position ≤ (stream.extract 0 (wholeSize stream)).size := by
    rw [size_whole]
    exact inside
  obtain ⟨before, waiting⟩ := readLine_served fetch peer daemon bound serving
  exact ((endsInLine_whole stream).position_eq before waiting).trans (size_whole stream)

/-- A stream is served line by line up to the last line feed, and then what is behind that. -/
theorem serveFrom_stream (isEnded : Bool) {stream : ByteArray} {position : Nat}
    (inside : position ≤ wholeSize stream) :
    serveFrom fetch isEnded stream position peer daemon =
      let served :=
        serveFrom fetch false (stream.extract 0 (wholeSize stream)) position peer daemon
      if served.hungUp then served
      else serveFrom fetch isEnded stream (wholeSize stream) served.peer served.daemon := by
  have parts := serveFrom_append fetch peer daemon isEnded (stream.extract 0 (wholeSize stream))
    (stream.extract (wholeSize stream) stream.size) position
  rw [extract_whole_append] at parts
  rw [parts]
  dsimp only
  split
  · rfl
  · rename_i serving
    rw [position_of_serving fetch peer daemon inside (by simpa using serving)]

theorem serveFrom_unfinished (stream : ByteArray) :
    serveFrom fetch false stream (wholeSize stream) peer daemon =
      if maxMessageBytes < stream.size - wholeSize stream then
        ⟨wholeSize stream + maxMessageBytes + 1, peer, true, daemon⟩
      else ⟨wholeSize stream, peer, false, daemon⟩ := by
  have read := readLine_of_unterminated false (stream.extract 0 (wholeSize stream))
    (unterminated_behind_whole stream)
  rw [extract_whole_append, size_whole, ByteArray.size_extract, Nat.min_self] at read
  rw [serveFrom_eq, read]
  by_cases tooLong : maxMessageBytes < stream.size - wholeSize stream
  · simp only [if_pos tooLong]
  · simp only [if_neg tooLong]
    rfl

theorem daemon_serveFrom_ended (stream : ByteArray) :
    (serveFrom fetch true stream (wholeSize stream) peer daemon).daemon =
      (unfinishedRequest? (stream.extract (wholeSize stream) stream.size)).elim daemon
        daemon.after := by
  have read := readLine_of_unterminated true (stream.extract 0 (wholeSize stream))
    (unterminated_behind_whole stream)
  rw [extract_whole_append, size_whole] at read
  rw [serveFrom_eq, read]
  by_cases nothing : (stream.extract (wholeSize stream) stream.size).size = 0 ∨
      maxMessageBytes < (stream.extract (wholeSize stream) stream.size).size
  · rw [unfinishedRequest?, if_pos nothing, Option.elim_none]
    by_cases tooLong : maxMessageBytes < (stream.extract (wholeSize stream) stream.size).size
    · simp only [if_pos tooLong]
    · have empty := nothing.resolve_right tooLong
      simp only [if_neg tooLong, if_pos empty, Bool.not_true, Bool.false_eq_true, if_false]
  · obtain ⟨nonempty, fits⟩ := not_or.mp nothing
    rw [unfinishedRequest?, if_neg nothing, if_neg fits, if_neg (by simp), if_neg nonempty,
      decodeLine]
    cases String.fromUTF8?
        (dropCarriageReturn (stream.extract (wholeSize stream) stream.size)) with
    | none => rfl
    | some text =>
        have handled := daemon.daemon_handle fetch (Message.fromLine text) peer
        dsimp only
        split
        · rw [serveFrom_eq, readLine_of_ended]
          exact handled
        · exact handled

variable {fetch peer daemon} (incoming : Inbox) {outgoing : Inbox}

theorem serve_of_closed (closed : outgoing.isClosed = true) :
    serve fetch peer ⟨incoming, outgoing⟩ daemon = (⟨incoming, outgoing⟩, daemon) := by
  exact if_pos closed

theorem serve_of_open (isOpen : outgoing.isClosed = false) :
    serve fetch peer ⟨incoming, outgoing⟩ daemon =
      let served :=
        serveFrom fetch incoming.isClosed incoming.bytes incoming.position peer daemon
      (⟨{ incoming with position := served.position },
        { outgoing.receive (framed served.peer.lines) with isClosed := served.hungUp }⟩,
        served.daemon) := by
  rw [serve, if_neg (by simp [isOpen])]

end Serving

/-- What happens while a connection is open: the client sends bytes and reads answers as far as it
likes, or something else happens to the mount. -/
inductive Act where
  | send (bytes : ByteArray) (peer : Peer)
  | elsewhere (use : Daemon → Daemon)

namespace Act

def bytes : Act → ByteArray
  | send bytes _ => bytes
  | elsewhere _ => .empty

def firstBytes (count : Nat) : Act → Act
  | send bytes peer => send (bytes.extract 0 count) peer
  | elsewhere use => elsewhere use

def sent : List Act → ByteArray
  | [] => .empty
  | act :: rest => act.bytes ++ sent rest

def keep : Nat → List Act → List Act
  | _, [] => []
  | count, act :: rest => act.firstBytes count :: keep (count - act.bytes.size) rest

def wholeLines (acts : List Act) : List Act :=
  keep (wholeSize (sent acts)) acts

def unfinished (acts : List Act) : ByteArray :=
  (sent acts).extract (wholeSize (sent acts)) (sent acts).size

@[simp]
theorem sent_append (earlier later : List Act) : sent (earlier ++ later) = sent earlier ++ sent later := by
  induction earlier with
  | nil => exact ByteArray.empty_append.symm
  | cons act rest ih => rw [List.cons_append, sent, sent, ih, ByteArray.append_assoc]

@[simp]
theorem sent_singleton (act : Act) : sent [act] = act.bytes :=
  ByteArray.append_empty

theorem keep_append (count : Nat) (earlier later : List Act) :
    keep count (earlier ++ later) = keep count earlier ++ keep (count - (sent earlier).size) later := by
  induction earlier generalizing count with
  | nil => rfl
  | cons act rest ih =>
      rw [List.cons_append, keep, keep, ih, sent, ByteArray.size_append, Nat.sub_sub]
      rfl

theorem firstBytes_of_size_le {act : Act} {count : Nat} (all : act.bytes.size ≤ count) :
    act.firstBytes count = act := by
  cases act with
  | send bytes peer =>
      have whole : bytes.extract 0 count = bytes := by
        rw [← Nat.max_eq_left (show bytes.size ≤ count from all)]
        exact ByteArray.extract_zero_max_size
      rw [firstBytes, whole]
  | elsewhere use => rfl

theorem keep_of_size_le {acts : List Act} {count : Nat} (all : (sent acts).size ≤ count) :
    keep count acts = acts := by
  induction acts generalizing count with
  | nil => rfl
  | cons act rest ih =>
      rw [sent, ByteArray.size_append] at all
      rw [keep, firstBytes_of_size_le (by omega), ih (by omega)]

theorem wholeLines_append_of_unterminated (earlier : List Act) {act : Act}
    (none : wholeSize act.bytes = 0) :
    wholeLines (earlier ++ [act]) = wholeLines earlier ++ [act.firstBytes 0] := by
  have bound := wholeSize_le (sent earlier)
  rw [wholeLines, sent_append, sent_singleton, wholeSize_append, if_pos none, keep_append,
    Nat.sub_eq_zero_of_le bound]
  rfl

theorem wholeLines_append_of_terminated (earlier : List Act) {act : Act}
    (some : wholeSize act.bytes ≠ 0) :
    wholeLines (earlier ++ [act]) = earlier ++ [act.firstBytes (wholeSize act.bytes)] := by
  rw [wholeLines, sent_append, sent_singleton, wholeSize_append, if_neg some, keep_append,
    keep_of_size_le (Nat.le_add_right _ _), Nat.add_sub_cancel_left]
  rfl

end Act

def perform (fetch : ContentId → Bool) (current : ControlLink × Daemon) :
    Act → ControlLink × Daemon
  | .send bytes peer =>
      { current.1 with incoming := current.1.incoming.receive bytes }.serve fetch peer current.2
  | .elsewhere use => (current.1, use current.2)

example (fetch : ContentId → Bool) (link : ControlLink) (daemon : Daemon) (bytes : ByteArray) :
    perform fetch (link, daemon) (.send bytes .steady) = link.send fetch bytes daemon := rfl

def performAll (fetch : ContentId → Bool) (acts : List Act) (current : ControlLink × Daemon) :
    ControlLink × Daemon :=
  acts.foldl (perform fetch) current

def hangUp (fetch : ContentId → Bool) (peer : Peer) (current : ControlLink × Daemon) : Daemon :=
  ({ current.1 with incoming := { current.1.incoming with isClosed := true } }.serve fetch peer
    current.2).2

example (fetch : ContentId → Bool) (link : ControlLink) (daemon : Daemon) :
    hangUp fetch (.breakingAfter 0) (link, daemon) = (link.close fetch daemon).2 := rfl

def session (fetch : ContentId → Bool) (acts : List Act) (peer : Peer) (daemon : Daemon) : Daemon :=
  hangUp fetch peer (performAll fetch acts (fresh, daemon))

/-- A connection that got a stream, and one that got the whole lines of it alone. The mount hung up
on both; or it waits behind the whole lines for more, or hung up on the first since what is behind
them is too long. -/
structure Ahead (stream : ByteArray) (ahead behind : ControlLink) : Prop where
  received : ahead.incoming.bytes = stream
  receivedWhole : behind.incoming.bytes = stream.extract 0 (wholeSize stream)
  listening : ahead.incoming.isClosed = false ∧ behind.incoming.isClosed = false
  standing : ahead.outgoing.isClosed = true ∧ behind.outgoing.isClosed = true ∨
    behind.outgoing.isClosed = false ∧ behind.incoming.position = wholeSize stream ∧
      (ahead.outgoing.isClosed = true ∧ maxMessageBytes < stream.size - wholeSize stream ∨
        ahead.outgoing.isClosed = false ∧ ahead.incoming.position = wholeSize stream ∧
          stream.size - wholeSize stream ≤ maxMessageBytes)

theorem ahead_fresh : Ahead .empty fresh fresh := by
  refine ⟨rfl, rfl, ⟨rfl, rfl⟩, .inr ⟨rfl, rfl, .inr ⟨rfl, rfl, Nat.zero_le _⟩⟩⟩

section Cut

variable {fetch : ContentId → Bool} {peer : Peer} {daemon : Daemon}

variable {stream : ByteArray}

theorem ahead_serve {position : Nat} (inside : position ≤ wholeSize stream)
    {outgoing other : Inbox} (isOpen : outgoing.isClosed = false)
    (otherOpen : other.isClosed = false) :
    (serve fetch peer ⟨⟨stream, position, false⟩, outgoing⟩ daemon).2 =
        (serve fetch peer ⟨⟨stream.extract 0 (wholeSize stream), position, false⟩, other⟩
          daemon).2 ∧
      Ahead stream (serve fetch peer ⟨⟨stream, position, false⟩, outgoing⟩ daemon).1
        (serve fetch peer ⟨⟨stream.extract 0 (wholeSize stream), position, false⟩, other⟩
          daemon).1 := by
  have served := serveFrom_stream fetch peer daemon false inside
  have position_eq := position_of_serving fetch peer daemon inside
  rw [serve_of_open _ isOpen, serve_of_open _ otherOpen]
  dsimp only
  generalize serveFrom fetch false (stream.extract 0 (wholeSize stream)) position peer daemon =
    part at served position_eq
  cases state : part.hungUp with
  | true =>
      rw [served.trans (if_pos state)]
      exact ⟨rfl, rfl, rfl, ⟨rfl, rfl⟩, .inl ⟨state, rfl⟩⟩
  | false =>
      rw [served.trans (if_neg (by simp [state])), serveFrom_unfinished]
      by_cases tooLong : maxMessageBytes < stream.size - wholeSize stream
      · rw [if_pos tooLong]
        exact ⟨rfl, rfl, rfl, ⟨rfl, rfl⟩, .inr ⟨rfl, position_eq state, .inl ⟨rfl, tooLong⟩⟩⟩
      · rw [if_neg tooLong]
        exact ⟨rfl, rfl, rfl, ⟨rfl, rfl⟩,
          .inr ⟨rfl, position_eq state, .inr ⟨rfl, rfl, Nat.not_lt.mp tooLong⟩⟩⟩

variable {full cut : ControlLink}

theorem Ahead.position_le (ahead : Ahead stream full cut) :
    full.outgoing.isClosed = true ∨ full.incoming.position ≤ stream.size := by
  rcases ahead.standing with ⟨closed, _⟩ | ⟨_, _, ⟨closed, _⟩ | ⟨_, position, _⟩⟩
  · exact .inl closed
  · exact .inl closed
  · rw [position]
    exact .inr (wholeSize_le stream)

variable {more : ByteArray}

theorem Ahead.sendTerminated (ahead : Ahead stream full cut) (some : wholeSize more ≠ 0) :
    (perform fetch (full, daemon) (.send more peer)).2 =
        (perform fetch (full, daemon) (.send (more.extract 0 (wholeSize more)) peer)).2 ∧
      Ahead (stream ++ more) (perform fetch (full, daemon) (.send more peer)).1
        (perform fetch (full, daemon) (.send (more.extract 0 (wholeSize more)) peer)).1 := by
  have size : wholeSize (stream ++ more) = stream.size + wholeSize more := by
    rw [wholeSize_append, if_neg some]
  -- Once a line feed comes, all that came before it is part of a whole line.
  have whole : stream ++ more.extract 0 (wholeSize more) =
      (stream ++ more).extract 0 (wholeSize (stream ++ more)) := by
    rw [size, ByteArray.extract_append, Nat.zero_sub, Nat.add_sub_cancel_left,
      ← Nat.max_eq_left (Nat.le_add_right stream.size (wholeSize more)),
      ByteArray.extract_zero_max_size]
  have received : ∀ bytes : ByteArray, full.incoming.receive bytes =
      ⟨stream ++ bytes, full.incoming.position, false⟩ := by
    intro bytes
    rw [Inbox.receive, ahead.received, ahead.listening.1]
  simp only [perform, received, whole]
  cases state : full.outgoing.isClosed with
  | true =>
      rw [serve_of_closed _ state, serve_of_closed _ state]
      exact ⟨rfl, rfl, rfl, ⟨rfl, rfl⟩, .inl ⟨state, state⟩⟩
  | false =>
      have before : full.incoming.position ≤ stream.size :=
        ahead.position_le.resolve_left (by simp [state])
      have inside : full.incoming.position ≤ wholeSize (stream ++ more) := by omega
      exact ahead_serve inside state state

theorem Ahead.sendUnterminated (ahead : Ahead stream full cut) (none : wholeSize more = 0) :
    (perform fetch (full, daemon) (.send more peer)).2 =
        (perform fetch (cut, daemon) (.send (more.extract 0 0) peer)).2 ∧
      Ahead (stream ++ more) (perform fetch (full, daemon) (.send more peer)).1
        (perform fetch (cut, daemon) (.send (more.extract 0 0) peer)).1 := by
  have size : wholeSize (stream ++ more) = wholeSize stream := by
    rw [wholeSize_append, if_pos none]
  have longer : (stream ++ more).size = stream.size + more.size := ByteArray.size_append
  have received : full.incoming.receive more =
      ⟨stream ++ more, full.incoming.position, false⟩ := by
    rw [Inbox.receive, ahead.received, ahead.listening.1]
  have kept : cut.incoming.receive (more.extract 0 0) =
      ⟨(stream ++ more).extract 0 (wholeSize (stream ++ more)), cut.incoming.position, false⟩ := by
    rw [Inbox.receive, ahead.receivedWhole, ahead.listening.2, ByteArray.extract_same,
      ByteArray.append_empty, size, extract_append_left (wholeSize_le stream)]
  simp only [perform, received, kept]
  rcases ahead.standing with ⟨closed, cutClosed⟩ | ⟨cutOpen, position, ⟨closed, tooLong⟩ | ⟨isOpen, same, _⟩⟩
  · rw [serve_of_closed _ closed, serve_of_closed _ cutClosed]
    exact ⟨rfl, rfl, rfl, ⟨rfl, rfl⟩, .inl ⟨closed, cutClosed⟩⟩
  · have waiting : serveFrom fetch false ((stream ++ more).extract 0 (wholeSize (stream ++ more)))
        cut.incoming.position peer daemon = ⟨wholeSize (stream ++ more), peer, false, daemon⟩ := by
      have used := readLine_of_used ((stream ++ more).extract 0 (wholeSize (stream ++ more)))
      rw [size_whole] at used
      rw [position, ← size]
      exact serveFrom_of_waiting used
    rw [serve_of_closed _ closed, serve_of_open _ cutOpen]
    dsimp only
    rw [waiting]
    have stillTooLong : maxMessageBytes < (stream ++ more).size - wholeSize (stream ++ more) := by
      omega
    exact ⟨rfl, rfl, rfl, ⟨rfl, rfl⟩, .inr ⟨rfl, rfl, .inl ⟨closed, stillTooLong⟩⟩⟩
  · rw [same, position]
    exact ahead_serve (Nat.le_of_eq size.symm) isOpen cutOpen

theorem ahead_performAll (fetch : ContentId → Bool) (acts : List Act) (daemon : Daemon) :
    (performAll fetch acts (fresh, daemon)).2 =
        (performAll fetch (Act.wholeLines acts) (fresh, daemon)).2 ∧
      Ahead (Act.sent acts) (performAll fetch acts (fresh, daemon)).1
        (performAll fetch (Act.wholeLines acts) (fresh, daemon)).1 := by
  -- The acts are taken from the end, since what the last one sends decides which of the earlier
  -- bytes belong to whole lines.
  induction acts using List.reverseRecOn with
  | nil => exact ⟨rfl, ahead_fresh⟩
  | append_singleton earlier act ih =>
      have unfolded : ∀ acts act, performAll fetch (acts ++ [act]) (fresh, daemon) =
          perform fetch (performAll fetch acts (fresh, daemon)) act := by
        intro acts act
        rw [performAll, List.foldl_append]
        rfl
      rw [Act.sent_append, Act.sent_singleton, unfolded]
      by_cases none : wholeSize act.bytes = 0
      · rw [Act.wholeLines_append_of_unterminated earlier none, unfolded]
        generalize performAll fetch earlier (fresh, daemon) = full at ih ⊢
        generalize performAll fetch (Act.wholeLines earlier) (fresh, daemon) = cut at ih ⊢
        obtain ⟨full, used⟩ := full
        obtain ⟨cut, _⟩ := cut
        obtain ⟨rfl, ahead⟩ := ih
        cases act with
        | send bytes peer => exact ahead.sendUnterminated none
        | elsewhere use =>
            rw [Act.bytes, ByteArray.append_empty]
            exact ⟨rfl, ahead⟩
      · rw [Act.wholeLines_append_of_terminated earlier none, unfolded]
        cases act with
        | send bytes peer => exact ih.2.sendTerminated none
        | elsewhere use => exact absurd rfl none

/-- When the client hangs up the unfinished line counts as a request, if the mount still listens. -/
theorem Ahead.hangUp_eq (ahead : Ahead stream full cut) (fetch : ContentId → Bool) (peer : Peer)
    (daemon : Daemon) :
    hangUp fetch peer (cut, daemon) = daemon ∧
      hangUp fetch peer (full, daemon) =
        (if cut.outgoing.isClosed then none
          else unfinishedRequest? (stream.extract (wholeSize stream) stream.size)).elim daemon
            daemon.after := by
  simp only [hangUp, ahead.received, ahead.receivedWhole]
  rcases ahead.standing with
    ⟨closed, cutClosed⟩ | ⟨cutOpen, position, standing⟩
  · rw [serve_of_closed _ closed, serve_of_closed _ cutClosed, if_pos cutClosed]
    exact ⟨rfl, rfl⟩
  · have ended : serveFrom fetch true (stream.extract 0 (wholeSize stream)) cut.incoming.position
        peer daemon = ⟨wholeSize stream, peer, true, daemon⟩ := by
      have read := readLine_of_ended (stream.extract 0 (wholeSize stream))
      rw [size_whole] at read
      rw [position, serveFrom_eq, read]
    rw [serve_of_open _ cutOpen, if_neg (by simp [cutOpen])]
    dsimp only
    rw [ended]
    refine ⟨rfl, ?_⟩
    rcases standing with ⟨closed, tooLong⟩ | ⟨isOpen, same, _⟩
    · have none : unfinishedRequest? (stream.extract (wholeSize stream) stream.size) = none := by
        refine if_pos (.inr ?_)
        rw [ByteArray.size_extract, Nat.min_self]
        exact tooLong
      rw [serve_of_closed _ closed, none]
      rfl
    · rw [serve_of_open _ isOpen, same]
      exact daemon_serveFrom_ended fetch peer daemon stream

end Cut

def readyMount : Daemon :=
  { (Daemon.mounting ⟨"/src", "/cache", "", none⟩).attach Daemon.idlePipeline with state := .ready }

def leftover? (fetch : ContentId → Bool) (acts : List Act) (daemon : Daemon) : Option Message :=
  if (performAll fetch (Act.wholeLines acts) (fresh, daemon)).1.outgoing.isClosed then none
  else unfinishedRequest? (Act.unfinished acts)

/-- A client that hangs up leaves the mount as if it had sent nothing behind the last line feed, and
then what is behind it as a request. So the state, the lock, the stores, the maintenance and the exit
code are as if nothing had been sent there, unless that request is an unmount, one for or of the
lock, or one after a fetch. -/
theorem unfinished_line_counts (fetch : ContentId → Bool) (acts : List Act) (peer : Peer)
    (daemon : Daemon) :
    session fetch acts peer daemon =
        (leftover? fetch acts daemon).elim (session fetch (Act.wholeLines acts) peer daemon)
          (session fetch (Act.wholeLines acts) peer daemon).after ∧
      ((∀ request ∈ leftover? fetch acts daemon, request.header ∉ Daemon.changing) →
        ∃ downloads, session fetch acts peer daemon =
          { session fetch (Act.wholeLines acts) peer daemon with downloads }) := by
  obtain ⟨same, ahead⟩ := ahead_performAll fetch acts daemon
  obtain ⟨cut, full⟩ :=
    ahead.hangUp_eq fetch peer (performAll fetch (Act.wholeLines acts) (fresh, daemon)).2
  have whole : session fetch (Act.wholeLines acts) peer daemon =
      (performAll fetch (Act.wholeLines acts) (fresh, daemon)).2 := cut
  have all : session fetch acts peer daemon =
      (leftover? fetch acts daemon).elim (session fetch (Act.wholeLines acts) peer daemon)
        (session fetch (Act.wholeLines acts) peer daemon).after := by
    rw [whole]
    refine Eq.trans ?_ full
    rw [← same]
    rfl
  refine ⟨all, ?_⟩
  intro unchanging
  rw [all]
  cases left : leftover? fetch acts daemon with
  | none => exact ⟨_, rfl⟩
  | some request => exact Daemon.after_of_unchanging (unchanging request left) _

theorem cut_release_ends_mount :
    ∃ acts, (session (fun _ => false) (Act.wholeLines acts) (.breakingAfter 0) readyMount).state =
        .ready ∧
      (session (fun _ => false) (Act.wholeLines acts) (.breakingAfter 0) readyMount).exitCode =
        none ∧
      (session (fun _ => false) acts (.breakingAfter 0) readyMount).state = .unmounting ∧
      (session (fun _ => false) acts (.breakingAfter 0) readyMount).exitCode =
        some .nullRequestData := by
  refine ⟨[.send "ReleaseLock|\x7b\"pid\":7,\"is_ele".toUTF8 .steady], ?_⟩
  decide +kernel

end ControlLink

end Enlistment
