import Enlistment.Proofs.Mount.ClientCalls

/-!
What a client gets for its calls. The client reads what its mount computed, in the state in which
the mount was when the request came, and the next call starts where this one did; so the two sides
of a connection stay together however many calls are made.
-/

namespace Enlistment

open Control

namespace Machine

theorem reached_reloaded {hosted : HostedMount} (reached : hosted.daemon.Reached) (files : Files) :
    (reloaded hosted files).Reached := by
  unfold reloaded
  split
  · exact .worked _ reached
  · exact reached

theorem holderInBounds_reloaded {hosted : HostedMount} (bounded : hosted.daemon.HolderInBounds)
    (files : Files) : (reloaded hosted files).HolderInBounds := by
  unfold reloaded
  split
  · exact bounded
  · exact bounded

variable {machine : Machine} {name : String} {number : Nat} {hosted : HostedMount}
  {link : ControlLink}

def Gets {Answer : Type} (name : String) (number : Nat) (mounted : HostedMount)
    (conversation : Conversation Machine Answer) (answer : Answer) (machine : Machine) : Prop :=
  ∃ after, conversation.run machine = (.ok answer, after) ∧ after.Owes name number [] ∧
    after.mounts[number]? = some mounted

section Performing

variable {used : Daemon} (owes : machine.Owes name number [])
  (mounted : machine.mounts[number]? = some hosted)

include owes mounted

theorem gets_of_call {Answer : Type} {request : Message} {line : String} {answer : Answer}
    {next : Message → Conversation Machine Answer} (asks : Sendable request.toLine)
    (answers : Sendable line)
    (handled : (reloaded hosted machine.files).handle (machine.canDownload number)
      (Message.fromLine request.toLine) .steady = ⟨.ok (), ⟨[line], none⟩, used⟩)
    (reads : ∀ after, (next (Message.fromLine line)).run after = (.ok answer, after)) :
    machine.Gets name number { hosted with daemon := used.settle }
      ((transport name).call request >>= next) answer := by
  obtain ⟨after, called, left, changed⟩ := call_of_handled owes mounted asks answers handled
  refine ⟨after, ?_, left, changed⟩
  rw [Conversation.run_bind_of_ok called]
  exact reads after

theorem gets_status
    (bounded : (reloaded hosted machine.files).status.backgroundOperationCount <
      StatusReport.countBound)
    (answers : Sendable (reloaded hosted machine.files).status.toLine)
    (handled : (reloaded hosted machine.files).handle (machine.canDownload number)
      (Message.fromLine Request.getStatus) .steady =
        ⟨.ok (), ⟨[(reloaded hosted machine.files).status.toLine], none⟩, used⟩) :
    machine.Gets name number { hosted with daemon := used.settle } (transport name).getStatus
      (reloaded hosted machine.files).status := by
  have asks : Sendable Request.getStatus := ⟨by decide, by decide⟩
  obtain ⟨sent, asked, waiting, changed⟩ := sendLine_of_handled owes mounted asks handled
  obtain ⟨text, after, received, readAs, left, same⟩ := receiveLine_of_owes waiting answers
  have plain : '\r' ∉ (reloaded hosted machine.files).status.toLine.toList := by
    intro member
    exact absurd ((reloaded hosted machine.files).status.printable_toLine '\r' member) (by decide)
  refine ⟨after, ?_, left, same ▸ changed⟩
  rw [Transport.getStatus, Conversation.run_bind_of_ok asked, Conversation.run_bind_of_ok received,
    readAs.eq_of_plain plain, StatusReport.fromLine_toLine bounded]
  rfl

theorem gets_completed
    (handled : (reloaded hosted machine.files).handle (machine.canDownload number)
      (Message.fromLine (Message.headerOnly Request.unmount).toLine) .steady =
        ⟨.ok (), ⟨["Ack", "Complete"], none⟩, used⟩) :
    machine.Gets name number { hosted with daemon := used.settle } (transport name).unmount
      .completed := by
  have asks : Sendable (Message.headerOnly Request.unmount).toLine := ⟨by decide, by decide⟩
  have acknowledgement : Sendable "Ack" := ⟨by decide, by decide⟩
  have completion : Sendable "Complete" := ⟨by decide, by decide⟩
  obtain ⟨begun, called, waiting, changed⟩ :=
    call_of_handled owes mounted asks acknowledgement handled
  obtain ⟨after, received, left, same⟩ := receiveMessage_of_owes waiting completion
  have first : (Transport.parseCode (Message.fromLine "Ack") :
      Conversation Machine UnmountResult).run begun = (.ok .acknowledged, begun) :=
    Transport.run_parseCode_fromLine UnmountResult.acknowledged begun
  have second : (Transport.parseCode (Message.fromLine "Complete") :
      Conversation Machine UnmountResult).run after = (.ok .completed, after) :=
    Transport.run_parseCode_fromLine UnmountResult.completed after
  refine ⟨after, ?_, left, same ▸ changed⟩
  rw [Transport.unmount, Conversation.run_bind_of_ok called, Conversation.run_bind_of_ok first,
    if_pos rfl, Conversation.run_bind_of_ok received, second]

theorem gets_refusal {state : MountState}
    (answers : Sendable (WireCode.spelling (Daemon.unmountRefusal state)))
    (handled : (reloaded hosted machine.files).handle (machine.canDownload number)
      (Message.fromLine (Message.headerOnly Request.unmount).toLine) .steady =
        ⟨.ok (), ⟨[WireCode.spelling (Daemon.unmountRefusal state)], none⟩, used⟩) :
    machine.Gets name number { hosted with daemon := used.settle } (transport name).unmount
      (Daemon.unmountRefusal state) := by
  have asks : Sendable (Message.headerOnly Request.unmount).toLine := ⟨by decide, by decide⟩
  have other : Daemon.unmountRefusal state ≠ .acknowledged := by
    cases state <;> decide
  refine gets_of_call owes mounted asks answers handled ?_
  intro after
  rw [Conversation.run_bind_of_ok (Transport.run_parseCode_fromLine _ after), if_neg other]
  rfl

end Performing

/-- A client may make a call. Nothing is under way on its connection, and the mount at the other end
came to its state as mounts do. -/
structure Connected (name : String) (number : Nat) (hosted : HostedMount) (machine : Machine) :
    Prop where
  owes : machine.Owes name number []
  mounted : machine.mounts[number]? = some hosted
  reached : hosted.daemon.Reached
  bounded : hosted.daemon.HolderInBounds

def handledCall (number : Nat) (hosted : HostedMount) (call : ClientCall) (machine : Machine) :
    Daemon.Handled :=
  (reloaded hosted machine.files).handle (machine.canDownload number)
    (Message.fromLine call.request.toLine) .steady

structure Fits (number : Nat) (hosted : HostedMount) (call : ClientCall) (machine : Machine) :
    Prop where
  within : call.InBounds (reloaded hosted machine.files)
  asks : Sendable call.request.toLine
  answers : ∀ line ∈ (machine.handledCall number hosted call).peer.lines,
    line.utf8ByteSize ≤ maxMessageBytes

def afterCall (number : Nat) (hosted : HostedMount) (call : ClientCall) (machine : Machine) :
    HostedMount :=
  { hosted with daemon := (machine.handledCall number hosted call).daemon.settle }

def answerTo (number : Nat) (hosted : HostedMount) (call : ClientCall) (machine : Machine) :
    call.Answer :=
  call.answer (machine.canDownload number) (reloaded hosted machine.files)

theorem Connected.gets_answer (connected : machine.Connected name number hosted)
    {call : ClientCall} (fits : machine.Fits number hosted call) :
    machine.Gets name number (machine.afterCall number hosted call)
      (call.perform (transport name)) (machine.answerTo number hosted call) := by
  have owes := connected.owes
  have mounted := connected.mounted
  have current := reached_reloaded connected.reached machine.files
  have bounded := holderInBounds_reloaded connected.bounded machine.files
  have steady : Peer.steady.accepts = none := rfl
  have sent := ClientCall.sent_of_saidBy current (ClientCall.saidBy_request fits.within)
    (machine.canDownload number) steady
  have handled := sent.eq_of_steady
  have answers : ∀ line ∈ call.reply (machine.canDownload number) (reloaded hosted machine.files),
      Sendable line := by
    intro line listed
    refine ⟨(sent.proper line listed).noLineFeed, fits.answers line ?_⟩
    rw [handledCall, handled]
    exact listed
  have asks := fits.asks
  cases call with
  | getStatus => exact gets_status owes mounted fits.within (answers _ List.mem_cons_self) handled
  | unmount =>
      rw [answerTo, ClientCall.answer, Daemon.unmountAnswer]
      split
      · rename_i accepted
        rw [ClientCall.reply, if_pos accepted] at handled
        exact gets_completed owes mounted handled
      · rename_i refused
        rw [ClientCall.reply, if_neg refused] at handled answers
        exact gets_refusal owes mounted (answers _ List.mem_cons_self) handled
  | acquireLock requester =>
      have reads := Daemon.fromMessage_acquireAnswer current bounded requester
      refine gets_of_call owes mounted asks (answers _ List.mem_cons_self) handled ?_
      intro after
      rw [reads]
      rfl
  | releaseLock requester =>
      exact gets_of_call owes mounted asks (answers _ List.mem_cons_self) handled
        (Transport.run_parseCode_fromLine _)
  | downloadObject id =>
      exact gets_of_call owes mounted asks (answers _ List.mem_cons_self) handled
        (Transport.run_parseCode_fromLine _)
  | modifiedPaths version =>
      obtain ⟨body, reads, entries⟩ :=
        (reloaded hosted machine.files).fromLine_pathsMessage (Message.trimmed version)
      refine gets_of_call owes mounted asks (answers _ List.mem_cons_self) handled ?_
      intro after
      rw [reads, Conversation.run_bind_of_ok (Transport.run_parseCode _ body after), entries]
      rfl
  | postFetch packs =>
      exact gets_of_call owes mounted asks (answers _ List.mem_cons_self) handled
        (Transport.run_parseCode_fromLine _)

theorem Connected.perform (connected : machine.Connected name number hosted)
    {call : ClientCall} (fits : machine.Fits number hosted call) :
    ∃ after, (call.perform (transport name)).run machine =
        (.ok (machine.answerTo number hosted call), after) ∧
      after.Connected name number (machine.afterCall number hosted call) := by
  obtain ⟨after, done, owes, mounted⟩ := connected.gets_answer fits
  have reached : (machine.handledCall number hosted call).daemon.Reached :=
    (reached_reloaded connected.reached machine.files).handled _ _ _
  have bounded : (machine.handledCall number hosted call).daemon.HolderInBounds :=
    (holderInBounds_reloaded connected.bounded machine.files).handle _ _ _
  exact ⟨after, done, owes, mounted, reached.settle, bounded.settle⟩

/-- Calls that are made one after another, each of which gets what the mount has to say when it
comes to it, as far as what is said fits. After the last one the client may make a call again. -/
def Converses (name : String) (number : Nat) : List ClientCall → HostedMount → Machine → Prop
  | [], hosted, machine => machine.Connected name number hosted
  | call :: rest, hosted, machine =>
      machine.Fits number hosted call →
        ∃ after, (call.perform (transport name)).run machine =
            (.ok (machine.answerTo number hosted call), after) ∧
          Converses name number rest (machine.afterCall number hosted call) after

theorem Connected.converses (connected : machine.Connected name number hosted)
    (calls : List ClientCall) : Converses name number calls hosted machine := by
  induction calls generalizing hosted machine with
  | nil => exact connected
  | cons call rest ih =>
      intro fits
      obtain ⟨after, done, next⟩ := connected.perform fits
      exact ⟨after, done, ih next⟩

/-- A client gets what its mount computes. For every call, whatever the mount is doing, the mount
reads what the client meant, the client reads what the mount has to say to that, and then nothing is
under way any more. -/
theorem client_gets_answer (call : ClientCall)
    (linked : machine.links.lookup name = some ⟨number, link⟩) (idle : link.Idle)
    (mounted : machine.mounts[number]? = some hosted) (reached : hosted.daemon.Reached)
    (bounded : hosted.daemon.HolderInBounds)
    (within : call.InBounds (reloaded hosted machine.files))
    (asks : Sendable call.request.toLine)
    (answers : ∀ line ∈ ((reloaded hosted machine.files).handle (machine.canDownload number)
      (Message.fromLine call.request.toLine) .steady).peer.lines,
      line.utf8ByteSize ≤ maxMessageBytes) :
    call.SaidBy (Message.fromLine call.request.toLine) ∧
    ∃ after left,
      (call.perform (transport name)).run machine =
        (.ok (call.answer (machine.canDownload number) (reloaded hosted machine.files)), after) ∧
      after.mounts[number]? = some { hosted with
        daemon := ((reloaded hosted machine.files).handle (machine.canDownload number)
          (Message.fromLine call.request.toLine) .steady).daemon.settle } ∧
      after.links.lookup name = some ⟨number, left⟩ ∧ left.Idle := by
  have connected : machine.Connected name number hosted :=
    ⟨owes_nothing linked idle, mounted, reached, bounded⟩
  obtain ⟨after, done, next⟩ := connected.converses [call] ⟨within, asks, answers⟩
  obtain ⟨left, found, nothing⟩ := next.owes
  exact ⟨ClientCall.saidBy_request within, after, left, done, next.mounted, found,
    ControlLink.idle_iff_owes_nothing.mpr nothing⟩

def requesterWithBar : Requester :=
  ⟨8, false, false, "git|gc\r", ""⟩

def lockedMount : HostedMount :=
  { readyMount Daemon.idlePipeline with daemon := Daemon.heldWithLineBreak }

def lockedMachine : Machine :=
  ⟨[], .empty, [lockedMount], [("client", ⟨0, .fresh⟩)]⟩

theorem client_gets_holder_with_line_break :
    Requester.fromBody (Message.fromLine
      (Message.toLine ⟨"AcquireLock", some requesterWithBar.toBody⟩)).body =
        some requesterWithBar ∧
    ∃ after, ((transport "client").acquireLock requesterWithBar).run lockedMachine =
      (.ok (.heldBy ⟨7, false, false, "git\ncommit", ""⟩), after) := by
  have bounded : Daemon.heldWithLineBreak.HolderInBounds := by
    intro pid owned
    have same : some (LockOwner.process 7) = some (.process pid) := owned
    rw [← LockOwner.process.inj (Option.some.inj same)]
    decide
  have within : (ClientCall.acquireLock requesterWithBar).InBounds Daemon.heldWithLineBreak :=
    show 8 < Requester.pidBound by decide
  have sent := ClientCall.sent_of_saidBy Daemon.reached_heldWithLineBreak
    (ClientCall.saidBy_request within) (lockedMachine.canDownload 0)
    (show Peer.steady.accepts = none from rfl)
  have short : ∀ line ∈
      [(Daemon.heldWithLineBreak.acquireAnswer requesterWithBar).toMessage.toLine],
      line.utf8ByteSize ≤ maxMessageBytes := by
    decide +kernel
  have current : reloaded lockedMount lockedMachine.files = Daemon.heldWithLineBreak := rfl
  have answers : ∀ line ∈ ((reloaded lockedMount lockedMachine.files).handle
      (lockedMachine.canDownload 0)
      (Message.fromLine (ClientCall.acquireLock requesterWithBar).request.toLine)
      .steady).peer.lines, line.utf8ByteSize ≤ maxMessageBytes := by
    rw [current, sent.received]
    exact short
  obtain ⟨said, after, _, done, _⟩ := client_gets_answer (.acquireLock requesterWithBar)
    (show lockedMachine.links.lookup "client" = some ⟨0, .fresh⟩ from rfl) ControlLink.idle_fresh
    (show lockedMachine.mounts[0]? = some lockedMount from rfl) Daemon.reached_heldWithLineBreak
    bounded within ⟨by decide +kernel, by decide +kernel⟩ answers
  exact ⟨said.2, after, done⟩

end Machine

end Enlistment
