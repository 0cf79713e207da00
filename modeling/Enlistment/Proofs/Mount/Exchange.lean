import Enlistment.Machine
import Enlistment.Proofs.Control.Conversation
import Enlistment.Proofs.Control.Stream

/-!
One request over a connection where nothing is under way. The mount reads it and answers it by some
lines, the client reads these one after another, and then again nothing is under way.
-/

namespace Enlistment

open Control

namespace ControlLink

structure Idle (link : ControlLink) : Prop where
  asked : link.incoming.position = link.incoming.bytes.size
  listening : link.incoming.isClosed = false
  answered : link.outgoing.position = link.outgoing.bytes.size
  serving : link.outgoing.isClosed = false

theorem idle_fresh : fresh.Idle := by
  exact ⟨rfl, rfl, rfl, rfl⟩

section Serving

variable {fetch : ContentId → Bool} {peer : Peer} {daemon : Daemon}

theorem serveFrom_eq (isEnded : Bool) (bytes : ByteArray) (position : Nat) :
    serveFrom fetch isEnded bytes position peer daemon =
      match readLine isEnded bytes position with
      | .line found =>
          let handled := daemon.handle fetch (Message.fromLine found.text) peer
          match handled.outcome with
          | .ok _ => serveFrom fetch isEnded bytes found.next handled.peer handled.daemon
          | .error _ => ⟨found.next, handled.peer, true, handled.daemon⟩
      | .waiting => ⟨position, peer, false, daemon⟩
      | .ended => ⟨position, peer, true, daemon⟩
      | .failed _ next => ⟨next, peer, true, daemon⟩ := by
  rw [serveFrom]
  split
  · rename_i found read
    rcases handled : daemon.handle fetch (Message.fromLine found.text) peer with ⟨_ | _, _, _⟩ <;>
      simp only [read, handled]
  · rename_i read
    rw [read]
  · rename_i read
    rw [read]
  · rename_i error next read
    rw [read]

theorem serveFrom_of_waiting {isEnded : Bool} {bytes : ByteArray} {position : Nat}
    (waiting : readLine isEnded bytes position = .waiting) :
    serveFrom fetch isEnded bytes position peer daemon = ⟨position, peer, false, daemon⟩ := by
  rw [serveFrom_eq, waiting]

theorem serveFrom_of_line {isEnded : Bool} {bytes : ByteArray} {position : Nat} {line : ReadLine}
    {after : Peer} {used : Daemon} (read : readLine isEnded bytes position = .line line)
    (handled : daemon.handle fetch (Message.fromLine line.text) peer = ⟨.ok (), after, used⟩) :
    serveFrom fetch isEnded bytes position peer daemon =
      serveFrom fetch isEnded bytes line.next after used := by
  rw [serveFrom_eq, read]
  dsimp only
  rw [handled]

variable {request : String} {answers : List String} {used : Daemon}

structure Owes (lines : List String) (link : ControlLink) : Prop where
  asked : link.incoming.position = link.incoming.bytes.size
  listening : link.incoming.isClosed = false
  owed : ∃ read, link.outgoing.bytes = read ++ framed lines ∧ link.outgoing.position = read.size
  serving : link.outgoing.isClosed = false

@[simp]
theorem framed_nil : framed [] = ByteArray.empty := by
  rfl

theorem framed_cons (line : String) (rest : List String) :
    framed (line :: rest) = (line.push '\n').toUTF8 ++ framed rest := by
  exact (congrArg String.toByteArray String.join_cons).trans String.toByteArray_append

theorem idle_iff_owes_nothing {link : ControlLink} : link.Idle ↔ link.Owes [] := by
  constructor
  · intro idle
    refine ⟨idle.asked, idle.listening, ⟨link.outgoing.bytes, ?_, idle.answered⟩, idle.serving⟩
    simp
  · rintro ⟨asked, listening, ⟨read, bytes, position⟩, serving⟩
    rw [framed_nil, ByteArray.append_empty] at bytes
    exact ⟨asked, listening, bytes ▸ position, serving⟩

theorem send_of_handled {link : ControlLink} (idle : link.Idle) (sendable : Sendable request)
    (handled : daemon.handle fetch (Message.fromLine request) .steady =
      ⟨.ok (), ⟨answers, none⟩, used⟩) :
    ∃ after, link.send fetch (request.push '\n').toUTF8 daemon = (after, used) ∧
      after.Owes answers := by
  obtain ⟨text, read, readAs⟩ := readLine_of_framed false link.incoming.bytes sendable
  rw [← Message.fromLine_of_readAs readAs] at handled
  have served : serveFrom fetch false (link.incoming.bytes ++ (request.push '\n').toUTF8)
      link.incoming.bytes.size .steady daemon =
      ⟨(link.incoming.bytes ++ (request.push '\n').toUTF8).size, ⟨answers, none⟩, false, used⟩ := by
    rw [serveFrom_of_line read handled, serveFrom_of_waiting (readLine_of_used _)]
  unfold send serve
  dsimp only [Inbox.receive]
  rw [idle.serving, idle.listening, idle.asked, served]
  exact ⟨_, rfl, rfl, rfl, ⟨link.outgoing.bytes, rfl, idle.answered⟩, rfl⟩

theorem takeLine_of_owes {link : ControlLink} {line : String} {rest : List String}
    (owes : link.Owes (line :: rest)) (sendable : Sendable line) :
    ∃ text outgoing, link.outgoing.takeLine = (.ok (some text), outgoing) ∧ ReadAs line text ∧
      { link with outgoing }.Owes rest := by
  obtain ⟨asked, listening, ⟨read, bytes, position⟩, serving⟩ := owes
  obtain ⟨text, found, readAs⟩ := readLine_of_framed false read sendable
  rw [framed_cons, ← ByteArray.append_assoc] at bytes
  have next : readLine link.outgoing.isClosed link.outgoing.bytes link.outgoing.position =
      .line ⟨text, (read ++ (line.push '\n').toUTF8).size⟩ := by
    rw [bytes, position, readLine_append _ _ (by rw [found]; simp), found]
  have taken : link.outgoing.takeLine = (.ok (some text),
      { link.outgoing with position := (read ++ (line.push '\n').toUTF8).size }) := by
    rw [Inbox.takeLine, next]
  exact ⟨text, _, taken, readAs, asked, listening, ⟨_, bytes, rfl⟩, serving⟩

end Serving

end ControlLink

namespace Machine

variable {machine : Machine} {name : String} {number : Nat} {hosted : HostedMount}
  {link : ControlLink}

@[simp]
theorem lookup_setLink (name : String) (linked : HostedLink) (machine : Machine) :
    (machine.setLink name linked).links.lookup name = some linked := by
  exact List.lookup_cons_self

theorem withMount_of_mounted {Answer : Type} (mounted : machine.mounts[number]? = some hosted)
    (use : Daemon → Answer × Daemon) :
    machine.withMount number use =
      (some (use (reloaded hosted machine.files)).1,
        let after := { hosted with daemon := (use (reloaded hosted machine.files)).2.settle }
        { machine.setMount number after with files := stored after machine.files }) := by
  rw [withMount, mounted]

def Owes (name : String) (number : Nat) (lines : List String) (machine : Machine) : Prop :=
  ∃ link, machine.links.lookup name = some ⟨number, link⟩ ∧ link.Owes lines

theorem owes_nothing (linked : machine.links.lookup name = some ⟨number, link⟩)
    (idle : link.Idle) : machine.Owes name number [] :=
  ⟨link, linked, ControlLink.idle_iff_owes_nothing.mp idle⟩

theorem sendLine_of_handled {request : String} {answers : List String} {used : Daemon}
    (owes : machine.Owes name number []) (mounted : machine.mounts[number]? = some hosted)
    (sendable : Sendable request)
    (handled : (reloaded hosted machine.files).handle (machine.canDownload number)
      (Message.fromLine request) .steady = ⟨.ok (), ⟨answers, none⟩, used⟩) :
    ∃ after, ((transport name).sendLine request).run machine = (.ok (), after) ∧
      after.Owes name number answers ∧
      after.mounts[number]? = some { hosted with daemon := used.settle } := by
  obtain ⟨link, linked, nothing⟩ := owes
  have idle := ControlLink.idle_iff_owes_nothing.mpr nothing
  obtain ⟨answered, passed, waiting⟩ := ControlLink.send_of_handled idle sendable handled
  have sent : (transport name).send (request.push '\n') machine =
      (.ok (), machine.send name (request.push '\n').toUTF8) := by
    simp only [transport, linked, idle.serving]
    rfl
  refine ⟨_, Transport.run_sendLine (writeLine_of_sendable sendable) sent, ?_, ?_⟩
  · refine ⟨answered, ?_, waiting⟩
    rw [send, onLink, linked]
    dsimp only
    rw [withMount_of_mounted mounted, passed]
    exact lookup_setLink _ _ _
  · have inside : number < machine.mounts.length := (List.getElem?_eq_some_iff.mp mounted).1
    rw [send, onLink, linked]
    dsimp only
    rw [withMount_of_mounted mounted, passed]
    exact List.getElem?_set_self inside

theorem receiveLine_of_owes {line : String} {rest : List String}
    (owes : machine.Owes name number (line :: rest)) (sendable : Sendable line) :
    ∃ text after, (transport name).receiveLine.run machine = (.ok text, after) ∧
      ReadAs line text ∧ after.Owes name number rest ∧ after.mounts = machine.mounts := by
  obtain ⟨link, linked, waiting⟩ := owes
  obtain ⟨text, outgoing, taken, readAs, left⟩ := ControlLink.takeLine_of_owes waiting sendable
  have received : (transport name).receive machine =
      (.ok (some text),
        machine.setLink name ⟨number, { link with outgoing }⟩) := by
    simp only [transport, takeLine, linked, taken]
  exact ⟨text, _, Transport.run_receiveLine received, readAs, ⟨_, lookup_setLink _ _ _, left⟩, rfl⟩

theorem receiveMessage_of_owes {line : String} {rest : List String}
    (owes : machine.Owes name number (line :: rest)) (sendable : Sendable line) :
    ∃ after, (transport name).receiveMessage.run machine = (.ok (Message.fromLine line), after) ∧
      after.Owes name number rest ∧ after.mounts = machine.mounts := by
  obtain ⟨text, after, received, readAs, left, same⟩ := receiveLine_of_owes owes sendable
  refine ⟨after, ?_, left, same⟩
  rw [← Message.fromLine_of_readAs readAs]
  exact Transport.run_receiveMessage received

theorem call_of_handled {request : Message} {answer : String} {rest : List String} {used : Daemon}
    (owes : machine.Owes name number []) (mounted : machine.mounts[number]? = some hosted)
    (asks : Sendable request.toLine) (answers : Sendable answer)
    (handled : (reloaded hosted machine.files).handle (machine.canDownload number)
      (Message.fromLine request.toLine) .steady = ⟨.ok (), ⟨answer :: rest, none⟩, used⟩) :
    ∃ after, ((transport name).call request).run machine =
        (.ok (Message.fromLine answer), after) ∧
      after.Owes name number rest ∧
      after.mounts[number]? = some { hosted with daemon := used.settle } := by
  obtain ⟨sent, asked, waiting, changed⟩ := sendLine_of_handled owes mounted asks handled
  obtain ⟨after, received, left, same⟩ := receiveMessage_of_owes waiting answers
  refine ⟨after, ?_, left, same ▸ changed⟩
  exact (Conversation.run_bind_of_ok asked _).trans received

end Machine

end Enlistment
