import Enlistment.Proofs.Control.Bodies
import Enlistment.Proofs.Control.Conversation
import Enlistment.Proofs.Control.Framing
import Enlistment.Proofs.Mount.Answers

/-!
The words that a mount answers with, as a client reads them. Every code is read from its spelling as
the code it was, in the vocabulary of the request that was asked; and an answer to a request for the
lock comes back with the process that has the lock, or with the reason why it is denied.
-/

namespace Enlistment.Control

class WireCode.Lawful (Code : Type) [WireCode Code] : Prop where
  parsed (code : Code) : WireCode.parse (WireCode.spelling code) = .ok code
  read (code : Code) : Message.fromLine (WireCode.spelling code) = ⟨WireCode.spelling code, none⟩

instance : WireCode.Lawful UnmountResult :=
  ⟨fun code => by cases code <;> rfl, fun code => by cases code <;> decide⟩

instance : WireCode.Lawful DownloadObjectResult :=
  ⟨fun code => by cases code <;> rfl, fun code => by cases code <;> decide⟩

instance : WireCode.Lawful ModifiedPathsResult :=
  ⟨fun code => by cases code <;> rfl, fun code => by cases code <;> decide⟩

instance : WireCode.Lawful PostFetchResult :=
  ⟨fun code => by cases code <;> rfl, fun code => by cases code <;> decide⟩

instance : WireCode.Lawful ReleaseLockResult :=
  ⟨fun code => by cases code <;> rfl, fun code => by cases code <;> decide⟩

theorem Transport.run_parseCode {State Code : Type} [WireCode Code] [WireCode.Lawful Code]
    (code : Code) (body : Option String) (state : State) :
    (Transport.parseCode ⟨WireCode.spelling code, body⟩ : Conversation State Code).run state =
      (.ok code, state) := by
  rw [Transport.parseCode, WireCode.Lawful.parsed code]
  rfl

theorem Transport.run_parseCode_fromLine {State Code : Type} [WireCode Code] [WireCode.Lawful Code]
    (code : Code) (state : State) :
    (Transport.parseCode (Message.fromLine (WireCode.spelling code)) :
      Conversation State Code).run state = (.ok code, state) := by
  rw [WireCode.Lawful.read code]
  exact run_parseCode code none state

structure Message.IsWhole (body : String) : Prop where
  noLineFeed : '\n' ∉ body.toList
  noCarriageReturn : '\r' ∉ body.toList
  notEmpty : body ≠ ""

theorem Message.isWhole_of_printable {body : String} (printable : Json.Printable body.toList)
    (notEmpty : body ≠ "") : IsWhole body :=
  ⟨printable.lineFeed_not_mem, printable.carriageReturn_not_mem, notEmpty⟩

theorem Message.fromLine_of_whole {header body : String} (noBar : '|' ∉ header.toList)
    (whole : IsWhole body) : fromLine (toLine ⟨header, some body⟩) = ⟨header, some body⟩ := by
  rw [fromLine_toLine noBar, trimmed_of_plain whole.noLineFeed whole.noCarriageReturn,
    if_neg whole.notEmpty]

theorem Requester.isWhole_toBody (requester : Requester) : Message.IsWhole requester.toBody := by
  refine Message.isWhole_of_printable requester.printable_toBody ?_
  rw [toBody, Ne, ← String.toList_eq_nil_iff, String.toList_ofList]
  exact List.cons_ne_nil _ _

theorem Requester.isWhole_toArrayBody (requester : Requester) :
    Message.IsWhole requester.toArrayBody := by
  have printable : Json.Printable requester.toArrayBody.toList := by
    rw [toArrayBody, String.toList_ofList]
    refine Json.printable_writeArray ?_
    simp only [written, List.map_cons, List.map_nil, List.forall_mem_cons]
    exact ⟨Json.printable_writeNatural _, Json.printable_writeBoolean _,
      Json.printable_writeBoolean _, Json.printable_quote _, Json.printable_quote _, by simp⟩
  refine Message.isWhole_of_printable printable ?_
  rw [toArrayBody, Ne, ← String.toList_eq_nil_iff, String.toList_ofList]
  exact List.cons_ne_nil _ _

theorem Transport.isWhole_packsToBody (packs : List String) :
    Message.IsWhole (packsToBody packs) := by
  have printable : Json.Printable (packsToBody packs).toList := by
    rw [packsToBody, String.toList_ofList]
    refine Json.printable_writeArray ?_
    intro item listed
    obtain ⟨pack, _, rfl⟩ := List.mem_map.mp listed
    exact Json.printable_quote pack
  refine Message.isWhole_of_printable printable ?_
  rw [packsToBody, Ne, ← String.toList_eq_nil_iff, String.toList_ofList]
  exact List.cons_ne_nil _ _

namespace LockAnswer

theorem fromMessage_heldBy {holder : Requester} {body : Option String}
    (read : Requester.fromBody body = some holder) :
    fromMessage ⟨WireCode.spelling AcquireLockResult.denyGit, body⟩ = .ok (heldBy holder) := by
  have parsed : WireCode.parse (WireCode.spelling AcquireLockResult.denyGit) =
      .ok AcquireLockResult.denyGit := rfl
  rw [fromMessage, parsed]
  simp only [bind, Except.bind, read]
  rfl

theorem fromMessage_denied (reason : String) :
    fromMessage ⟨WireCode.spelling AcquireLockResult.denyMount, some reason⟩ =
      .ok (denied reason) := by
  rfl

/-- A client reads the answer that the mount gave, if that is not denied in words that would not go
on a line. -/
theorem fromMessage_request {state : MountState} {denial : Option String} {arbiter : LockArbiter}
    (worded : ∀ reason, denial = some reason → Message.IsWhole reason)
    (bounded : ∀ holder, arbiter.process? = some holder → holder.pid < Requester.pidBound)
    (requester : Requester) :
    fromMessage (.fromLine (arbiter.request state denial requester).1.toMessage.toLine) =
      .ok (arbiter.request state denial requester).1 := by
  rcases arbiter.answer_cases state denial requester with
    ⟨result, notGit, notMount, same⟩ | ⟨holder, held, same⟩ | ⟨reason, same, source⟩
  · rw [same]
    cases result with
    | denyGit => contradiction
    | denyMount => contradiction
    | _ => rfl
  · have noBar : '|' ∉ (WireCode.spelling AcquireLockResult.denyGit).toList := by decide
    have read : Message.fromLine (heldBy holder).toMessage.toLine =
        ⟨WireCode.spelling AcquireLockResult.denyGit, some holder.toBody⟩ :=
      Message.fromLine_of_whole noBar holder.isWhole_toBody
    rw [same, read]
    exact fromMessage_heldBy (Requester.fromBody_toBody (bounded holder held))
  · have noBar : '|' ∉ (WireCode.spelling AcquireLockResult.denyMount).toList := by decide
    have whole : Message.IsWhole reason := by
      rcases source with rfl | denied
      · exact ⟨by decide, by decide, by decide⟩
      · exact worded reason denied
    have read : Message.fromLine (denied reason).toMessage.toLine =
        ⟨WireCode.spelling AcquireLockResult.denyMount, some reason⟩ :=
      Message.fromLine_of_whole noBar whole
    rw [same, read]
    exact fromMessage_denied reason

end LockAnswer

end Enlistment.Control
