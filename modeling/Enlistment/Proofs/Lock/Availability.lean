import Enlistment.Proofs.Lock.Exclusion

/-!
What an availability check says about the request that it stands for. The check asks whether anybody
has the lock, the request whether anybody else has it, so they differ for the process that has it:
it may take the lock again, and is told that the lock is taken.
-/

namespace Enlistment

open Control

namespace Control.Requester

def checking (requester : Requester) : Requester :=
  { requester with checkAvailabilityOnly := true }

def taking (requester : Requester) : Requester :=
  { requester with checkAvailabilityOnly := false }

end Control.Requester

namespace LockArbiter

/-- Checked and asked for in the same state, the lock is available exactly if it would be granted,
but for the process that has it, which would be granted the lock and is told that it has it itself.
Where neither is granted, both are refused with the same words, but that a check names the process
that has the lock where the request says why nobody gets it now. -/
theorem available_iff_acquired_unless_held (state : MountState) (denial : Option String)
    (requester : Requester) (arbiter : LockArbiter) :
    let checked := (arbiter.request state denial requester.checking).1
    let asked := (arbiter.request state denial requester.taking).1
    (checked.result = .available ↔
      asked.result = .acquired ∧ arbiter.owner? ≠ some (.process requester.pid)) ∧
    (asked.result = .acquired → arbiter.owner? = some (.process requester.pid) →
      ∃ holder, arbiter.holder = some (.process holder) ∧ checked = .heldBy holder) ∧
    (asked.result ≠ .acquired → checked = asked ∨
      ∃ reason holder, denial = some reason ∧ arbiter.holder = some (.process holder) ∧
        asked = .denied reason ∧ checked = .heldBy holder) := by
  intro checked asked
  have takes : asked.result = .acquired ↔
      state = .ready ∧ denial = none ∧ arbiter.OpenTo requester.pid := by
    simp [asked, request_acquired_iff, Control.Requester.taking]
  have finds : checked.result = .available ↔
      state = .ready ∧ denial = none ∧ arbiter.owner? = none := by
    simp [checked, request_available_iff, Control.Requester.checking]
  refine ⟨?_, ?_, ?_⟩
  · rw [finds, takes]
    constructor
    · rintro ⟨ready, allowed, free⟩
      exact ⟨⟨ready, allowed, .inl free⟩, by rw [free]; exact nofun⟩
    · rintro ⟨⟨ready, allowed, openTo⟩, other⟩
      exact ⟨ready, allowed, openTo.resolve_right other⟩
  · intro granted own
    obtain ⟨rfl, _⟩ := takes.mp granted
    obtain ⟨holder, held, _⟩ := owner?_eq_process_iff.mp own
    exact ⟨holder, held, availability_of_held (process?_eq_some_iff.mpr held) denial⟩
  · intro refused
    rw [ne_eq, takes] at refused
    by_cases ready : state = .ready
    · subst ready
      cases denial with
      | some reason =>
          cases held : arbiter.process? with
          | none => exact .inl (availability_of_denial held reason)
          | some holder =>
              exact .inr ⟨reason, holder, rfl, process?_eq_some_iff.mp held, rfl,
                availability_of_held held (some reason)⟩
      | none =>
          have taken : ¬arbiter.OpenTo requester.taking.pid :=
            fun openTo => refused ⟨rfl, rfl, openTo⟩
          have told : asked = arbiter.refusal := congrArg Prod.fst (decide_of_taken taken)
          have found : checked = arbiter.refusal :=
            availability_of_taken fun free => taken (.inl free)
          exact .inl (found.trans told.symm)
    · exact .inl (by simp only [checked, asked, request_of_unready ready])

end LockArbiter

/-- A process that has the lock checks whether it could have it. -/
theorem LockWorld.holder_told_of_itself :
    let git : Requester := ⟨7, false, false, "git status", ""⟩
    let world := LockWorld.performAll [.move .ready, .request none git] ⟨.mounting, .free⟩
    (world.lock.request world.state none git.checking).1 = .heldBy git ∧
      ¬((world.lock.request world.state none git.checking).1.result = .available ↔
        (world.lock.request world.state none git.taking).1.result = .acquired) := by
  decide

end Enlistment
