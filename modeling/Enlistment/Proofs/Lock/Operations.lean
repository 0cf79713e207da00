import Enlistment.Lock.Arbiter

/-!
Each operation on the lock in full. A grant records the process and its session together, whatever
takes the lock from a process forgets both, and everything else leaves both as they are.
-/

namespace Enlistment

open Control

inductive LockOwner where
  | mount
  | process (pid : Nat)
deriving DecidableEq

def LockHolder.owner : LockHolder → LockOwner
  | mount => .mount
  | process requester => .process requester.pid

namespace LockArbiter

def owner? (arbiter : LockArbiter) : Option LockOwner :=
  arbiter.holder.map LockHolder.owner

@[simp]
theorem owner?_watch (pid : Nat) (arbiter : LockArbiter) :
    (arbiter.watch pid).owner? = arbiter.owner? := by
  unfold watch
  split <;> rfl

@[simp]
theorem owner?_unwatch (pid : Nat) (arbiter : LockArbiter) :
    (arbiter.unwatch pid).owner? = arbiter.owner? := by
  rfl

variable {arbiter : LockArbiter} {requester : Requester}

@[simp]
theorem process?_eq_some_iff {holder : Requester} :
    arbiter.process? = some holder ↔ arbiter.holder = some (.process holder) := by
  cases held : arbiter.holder with
  | none => simp [process?, held]
  | some holder => cases holder <;> simp [process?, held]

@[simp]
theorem owner?_eq_none_iff : arbiter.owner? = none ↔ arbiter.holder = none := by
  exact Option.map_eq_none_iff

theorem owner?_eq_process_iff {pid : Nat} :
    arbiter.owner? = some (.process pid) ↔
      ∃ holder, arbiter.holder = some (.process holder) ∧ holder.pid = pid := by
  cases held : arbiter.holder with
  | none => simp [owner?, held]
  | some holder => cases holder <;> simp [owner?, held, LockHolder.owner]

theorem owner?_of_process? {holder : Requester} (held : arbiter.process? = some holder) :
    arbiter.owner? = some (.process holder.pid) := by
  exact owner?_eq_process_iff.mpr ⟨holder, process?_eq_some_iff.mp held, rfl⟩

def OpenTo (pid : Nat) (arbiter : LockArbiter) : Prop :=
  arbiter.owner? = none ∨ arbiter.owner? = some (.process pid)

instance (pid : Nat) (arbiter : LockArbiter) : Decidable (arbiter.OpenTo pid) :=
  inferInstanceAs (Decidable (_ ∨ _))

def grant (requester : Requester) (arbiter : LockArbiter) : LockArbiter :=
  setSession requester.sessionId { arbiter with holder := some (.process requester) }

@[simp]
theorem owner?_grant (requester : Requester) (arbiter : LockArbiter) :
    (arbiter.grant requester).owner? = some (.process requester.pid) := by
  rfl

def refusal (arbiter : LockArbiter) : LockAnswer :=
  match arbiter.process? with
  | some holder => .heldBy holder
  | none => .denied heldByMount

theorem result_refusal_ne (arbiter : LockArbiter) :
    arbiter.refusal.result ≠ .acquired ∧ arbiter.refusal.result ≠ .available := by
  unfold refusal
  split <;> simp [LockAnswer.heldBy, LockAnswer.denied]

theorem tryAcquire_of_open (openTo : arbiter.OpenTo requester.pid) :
    arbiter.tryAcquire .ready requester = (⟨true, none⟩, arbiter.grant requester) := by
  rcases openTo with free | own
  · rw [owner?_eq_none_iff] at free
    simp [tryAcquire, free, grant]
  · obtain ⟨holder, held, same⟩ := owner?_eq_process_iff.mp own
    simp [tryAcquire, held, same, grant]

theorem tryAcquire_of_taken (taken : ¬arbiter.OpenTo requester.pid) :
    arbiter.tryAcquire .ready requester = (⟨false, arbiter.process?⟩, arbiter) := by
  obtain ⟨owned, other⟩ := not_or.mp taken
  cases held : arbiter.holder with
  | none => exact absurd (owner?_eq_none_iff.mpr held) owned
  | some holder =>
      cases holder with
      | mount => simp [tryAcquire, held, process?]
      | process current =>
          have different : current.pid ≠ requester.pid := fun same =>
            other (owner?_eq_process_iff.mpr ⟨current, held, same⟩)
          simp [tryAcquire, held, different, process?]

theorem tryAcquire_of_unready {state : MountState} (unready : state ≠ .ready) :
    arbiter.tryAcquire state requester = (⟨false, none⟩, arbiter) := by
  rw [tryAcquire, if_pos unready]

theorem decide_of_open (openTo : arbiter.OpenTo requester.pid) :
    arbiter.decide none requester =
      (.ofResult .acquired, (arbiter.grant requester).watch requester.pid) := by
  simp only [decide, tryAcquire_of_open openTo]

theorem decide_of_taken (taken : ¬arbiter.OpenTo requester.pid) :
    arbiter.decide none requester = (arbiter.refusal, arbiter) := by
  simp only [decide, tryAcquire_of_taken taken, refusal]
  cases arbiter.process? <;> rfl

@[simp]
theorem isFree_iff : arbiter.isFree = true ↔ arbiter.owner? = none := by
  rw [isFree, Option.isNone_iff_eq_none, owner?_eq_none_iff]

theorem availability_of_free (free : arbiter.owner? = none) :
    arbiter.availability none = .ofResult .available := by
  unfold availability
  rw [isFree_iff.mpr free]
  rfl

/-- Whoever checks is told first who has the lock. -/
theorem availability_of_held {holder : Requester} (held : arbiter.process? = some holder)
    (denial : Option String) : arbiter.availability denial = .heldBy holder := by
  have owned : ¬arbiter.isFree = true := by
    rw [isFree_iff, owner?_of_process? held]
    exact Option.some_ne_none _
  unfold availability
  rw [held, Bool.eq_false_iff.mpr owned, Bool.and_false]
  rfl

theorem availability_of_denial (nobody : arbiter.process? = none) (reason : String) :
    arbiter.availability (some reason) = .denied reason := by
  unfold availability
  rw [nobody]
  rfl

theorem availability_of_taken (taken : arbiter.owner? ≠ none) :
    arbiter.availability none = arbiter.refusal := by
  unfold availability refusal
  rw [Bool.eq_false_iff.mpr (mt isFree_iff.mp taken)]
  cases arbiter.process? <;> rfl

/-- Taking the lock directly gives the lock or does nothing. -/
theorem tryAcquire_cases (state : MountState) (requester : Requester) (arbiter : LockArbiter) :
    ((arbiter.tryAcquire state requester).1.acquired = true ∧ state = .ready ∧
      arbiter.OpenTo requester.pid ∧
      (arbiter.tryAcquire state requester).2 = arbiter.grant requester) ∨
    ((arbiter.tryAcquire state requester).1.acquired = false ∧
      (arbiter.tryAcquire state requester).2 = arbiter) := by
  by_cases ready : state = .ready
  · subst ready
    by_cases openTo : arbiter.OpenTo requester.pid
    · rw [tryAcquire_of_open openTo]
      exact .inl ⟨rfl, rfl, openTo, rfl⟩
    · rw [tryAcquire_of_taken openTo]
      exact .inr ⟨rfl, rfl⟩
  · rw [tryAcquire_of_unready ready]
    exact .inr ⟨rfl, rfl⟩

theorem request_of_unready {state : MountState} (unready : state ≠ .ready)
    (denial : Option String) (requester : Requester) (arbiter : LockArbiter) :
    arbiter.request state denial requester =
      (.ofResult (if state = .unmounting then .unmountInProgress else .mountNotReady), arbiter) := by
  cases state with
  | ready => exact absurd rfl unready
  | mounting => rfl
  | unmounting => rfl
  | mountFailed => rfl

theorem availability_result_ne (denial : Option String) (arbiter : LockArbiter) :
    (arbiter.availability denial).result ≠ .acquired := by
  unfold availability
  split
  · simp [LockAnswer.ofResult]
  · split <;> simp [LockAnswer.heldBy, LockAnswer.denied]

theorem request_acquired_iff {state : MountState} {denial : Option String} :
    (arbiter.request state denial requester).1.result = .acquired ↔
      state = .ready ∧ denial = none ∧ requester.checkAvailabilityOnly = false ∧
        arbiter.OpenTo requester.pid := by
  by_cases ready : state = .ready
  · subst ready
    cases check : requester.checkAvailabilityOnly with
    | true => simp [request, check, availability_result_ne]
    | false =>
        cases denial with
        | some reason => simp [request, check, decide, LockAnswer.denied]
        | none =>
            by_cases openTo : arbiter.OpenTo requester.pid
            · simp [request, check, decide_of_open openTo, LockAnswer.ofResult, openTo]
            · simp [request, check, decide_of_taken openTo, result_refusal_ne, openTo]
  · rw [request_of_unready ready]
    split <;> simp [LockAnswer.ofResult, ready]

theorem request_available_iff {state : MountState} {denial : Option String} :
    (arbiter.request state denial requester).1.result = .available ↔
      state = .ready ∧ denial = none ∧ requester.checkAvailabilityOnly = true ∧
        arbiter.owner? = none := by
  by_cases ready : state = .ready
  · subst ready
    cases check : requester.checkAvailabilityOnly with
    | true =>
        cases denial with
        | some reason =>
            cases held : arbiter.process? with
            | none => simp [request, check, availability_of_denial held, LockAnswer.denied]
            | some holder => simp [request, check, availability_of_held held, LockAnswer.heldBy]
        | none =>
            by_cases free : arbiter.owner? = none
            · simp [request, check, availability_of_free free, LockAnswer.ofResult, free]
            · simp [request, check, availability_of_taken free, result_refusal_ne, free]
    | false =>
        cases denial with
        | some reason => simp [request, check, decide, LockAnswer.denied]
        | none =>
            by_cases openTo : arbiter.OpenTo requester.pid
            · simp [request, check, decide_of_open openTo, LockAnswer.ofResult]
            · simp [request, check, decide_of_taken openTo, result_refusal_ne]
  · rw [request_of_unready ready]
    split <;> simp [LockAnswer.ofResult, ready]

/-- A request gives the lock and has the process watched, or does nothing. -/
theorem request_cases (state : MountState) (denial : Option String) (requester : Requester)
    (arbiter : LockArbiter) :
    ((arbiter.request state denial requester).1.result = .acquired ∧ state = .ready ∧
      requester.checkAvailabilityOnly = false ∧ arbiter.OpenTo requester.pid ∧
      (arbiter.request state denial requester).2 =
        (arbiter.grant requester).watch requester.pid) ∨
    ((arbiter.request state denial requester).1.result ≠ .acquired ∧
      (arbiter.request state denial requester).2 = arbiter) := by
  by_cases acquired : (arbiter.request state denial requester).1.result = .acquired
  · obtain ⟨rfl, rfl, wants, openTo⟩ := request_acquired_iff.mp acquired
    refine .inl ⟨acquired, rfl, wants, openTo, ?_⟩
    simp only [request, wants, Bool.false_eq_true, if_false, decide_of_open openTo]
  · refine .inr ⟨acquired, ?_⟩
    by_cases ready : state = .ready
    · subst ready
      rw [request]
      split
      · rfl
      · rename_i wants
        cases denial with
        | some reason => rfl
        | none =>
            have taken : ¬arbiter.OpenTo requester.pid := fun openTo =>
              acquired (request_acquired_iff.mpr ⟨rfl, rfl, by simpa using wants, openTo⟩)
            rw [decide_of_taken taken]
    · rw [request_of_unready ready]

theorem release_eq (pid : Nat) (arbiter : LockArbiter) :
    arbiter.release pid =
      if arbiter.owner? = some (.process pid) then (true, arbiter.clear) else (false, arbiter) := by
  cases held : arbiter.holder with
  | none => simp [release, held, owner?]
  | some holder =>
      cases holder with
      | mount => simp [release, held, owner?, LockHolder.owner]
      | process current =>
          by_cases same : current.pid = pid
          · simp [release, held, same, owner?, LockHolder.owner, clear]
          · simp [release, held, same, owner?, LockHolder.owner]

theorem release_cases (pid : Nat) (arbiter : LockArbiter) :
    (arbiter.owner? = some (.process pid) ∧ arbiter.release pid = (true, arbiter.clear)) ∨
    (arbiter.owner? ≠ some (.process pid) ∧ arbiter.release pid = (false, arbiter)) := by
  rw [release_eq]
  split
  · rename_i own
    exact .inl ⟨own, rfl⟩
  · rename_i other
    exact .inr ⟨other, rfl⟩

theorem process?_pid (arbiter : LockArbiter) (pid : Nat) :
    (arbiter.process?.map (·.pid)) = some pid ↔ arbiter.owner? = some (.process pid) := by
  simp only [Option.map_eq_some_iff, process?_eq_some_iff, owner?_eq_process_iff]

/-- What a look at one watched process does. -/
theorem check_eq (isAlive : Nat → Bool) (arbiter : LockArbiter) (pid : Nat) :
    arbiter.check isAlive pid =
      if arbiter.owner? = some (.process pid) then
        if isAlive pid then arbiter else arbiter.clear.unwatch pid
      else arbiter.unwatch pid := by
  simp only [check, process?_pid]
  split
  · rename_i own
    rw [release_eq, if_pos own]
  · rfl

end LockArbiter

end Enlistment
