import Enlistment.Control.Client

/-!
Conversations step by step: what a client gets when every line it sends and waits for goes through.
-/

namespace Enlistment.Control

variable {State : Type} {state after : State}

theorem Conversation.run_bind_of_ok {First Second : Type} {first : Conversation State First}
    {answer : First} (done : first.run state = (.ok answer, after))
    (next : First → Conversation State Second) :
    (first >>= next).run state = (next answer).run after := by
  let resume : Except ClientError First × State → Except ClientError Second × State
    | (.ok answer, between) => (next answer).run between
    | (.error error, between) => (.error error, between)
  have step : (first >>= next).run state = resume (first.run state) := by
    rw [ExceptT.run_bind]
    show StateT.bind first.run _ state = _
    unfold StateT.bind
    rcases first.run state with ⟨_ | _, between⟩ <;> rfl
  rw [step, done]

namespace Transport

variable {transport : Transport State}

theorem run_sendLine {line framed : String} (written : writeLine line = .ok framed)
    (sent : transport.send framed state = (.ok (), after)) :
    (transport.sendLine line).run state = (.ok (), after) := by
  have current : (get : Conversation State State).run state = (.ok state, state) := rfl
  unfold sendLine
  rw [written]
  refine (Conversation.run_bind_of_ok current _).trans ?_
  simp only [sent]
  rfl

theorem run_receiveLine {line : String}
    (received : transport.receive state = (.ok (some line), after)) :
    transport.receiveLine.run state = (.ok line, after) := by
  have current : (get : Conversation State State).run state = (.ok state, state) := rfl
  unfold receiveLine
  refine (Conversation.run_bind_of_ok current _).trans ?_
  simp only [received]
  rfl

theorem run_receiveMessage {line : String}
    (received : transport.receiveLine.run state = (.ok line, after)) :
    transport.receiveMessage.run state = (.ok (Message.fromLine line), after) := by
  unfold receiveMessage
  rw [Conversation.run_bind_of_ok received]
  rfl

end Transport

end Enlistment.Control
