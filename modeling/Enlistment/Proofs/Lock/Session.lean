import Enlistment.Proofs.Lock.Exclusion

/-!
The session that work is done for. The lock keeps the session beside its holder, and the operations
write one, the other or both; over whole runs the session is that of the process that has the lock,
if it gave one, and nothing is left of it when the process has lost the lock.
-/

namespace Enlistment

open Control

namespace LockArbiter

def holderSession? (arbiter : LockArbiter) : Option String :=
  arbiter.process?.bind fun holder =>
    if holder.sessionId.isEmpty then none else some holder.sessionId

theorem holderSession?_eq_some_iff {arbiter : LockArbiter} {id : String} :
    arbiter.holderSession? = some id ↔
      ∃ holder, arbiter.holder = some (.process holder) ∧ holder.sessionId = id ∧ id ≠ "" := by
  simp only [holderSession?, Option.bind_eq_some_iff, process?_eq_some_iff]
  refine exists_congr fun holder => and_congr_right fun _ => ?_
  by_cases empty : holder.sessionId = ""
  · have blank : "".isEmpty = true := rfl
    rw [empty, blank, if_pos rfl]
    constructor
    · intro impossible
      exact absurd impossible (by simp)
    · rintro ⟨rfl, given⟩
      exact absurd rfl given
  · have given : holder.sessionId.isEmpty = false := by simpa using empty
    rw [given, if_neg Bool.false_ne_true, Option.some.injEq]
    constructor
    · rintro rfl
      exact ⟨rfl, empty⟩
    · exact And.left

/-- The lock knows the session of the process that has it, and no other. -/
def Attributed (arbiter : LockArbiter) : Prop :=
  arbiter.sessionId = arbiter.holderSession?

variable {arbiter : LockArbiter}

theorem attributed_free : free.Attributed :=
  rfl

theorem attributed_grant (requester : Requester) (arbiter : LockArbiter) :
    (arbiter.grant requester).Attributed :=
  rfl

theorem attributed_clear (arbiter : LockArbiter) : arbiter.clear.Attributed :=
  rfl

theorem Attributed.watch (attributed : arbiter.Attributed) (pid : Nat) :
    (arbiter.watch pid).Attributed := by
  unfold LockArbiter.watch
  split <;> exact attributed

theorem Attributed.release (attributed : arbiter.Attributed) (pid : Nat) :
    (arbiter.release pid).2.Attributed := by
  rcases release_cases pid arbiter with ⟨_, freed⟩ | ⟨_, same⟩
  · rw [freed]
    exact attributed_clear arbiter
  · rw [same]
    exact attributed

theorem Attributed.tryAcquire (attributed : arbiter.Attributed) (state : MountState)
    (requester : Requester) : (arbiter.tryAcquire state requester).2.Attributed := by
  rcases tryAcquire_cases state requester arbiter with ⟨_, _, _, taken⟩ | ⟨_, same⟩
  · rw [taken]
    exact attributed_grant requester arbiter
  · rw [same]
    exact attributed

theorem Attributed.request (attributed : arbiter.Attributed) (state : MountState)
    (denial : Option String) (requester : Requester) :
    (arbiter.request state denial requester).2.Attributed := by
  rcases request_cases state denial requester arbiter with ⟨_, _, _, _, taken⟩ | ⟨_, same⟩
  · rw [taken]
    exact (attributed_grant requester arbiter).watch requester.pid
  · rw [same]
    exact attributed

/-- The mount has no session, and it takes the lock only where no process has it. -/
theorem Attributed.acquireForMount (attributed : arbiter.Attributed) :
    arbiter.acquireForMount.2.Attributed := by
  unfold LockArbiter.acquireForMount
  split
  · exact attributed
  · rename_i noProcess
    have nobody : arbiter.process? = none := by
      rw [Option.eq_none_iff_forall_ne_some]
      intro requester held
      exact noProcess requester (process?_eq_some_iff.mp held)
    have unset : arbiter.sessionId = none := by
      rw [attributed, holderSession?, nobody]
      rfl
    exact unset

theorem Attributed.releaseForMount (attributed : arbiter.Attributed) :
    arbiter.releaseForMount.Attributed := by
  unfold LockArbiter.releaseForMount
  split
  · rename_i held
    have unset : arbiter.sessionId = none := by
      rw [attributed, holderSession?, process?, held]
      rfl
    exact unset
  · exact attributed

theorem Attributed.check (attributed : arbiter.Attributed) (isAlive : Nat → Bool) (pid : Nat) :
    (arbiter.check isAlive pid).Attributed := by
  rw [check_eq]
  split
  · split
    · exact attributed
    · exact attributed_clear arbiter
  · exact attributed

end LockArbiter

namespace LockWorld

open LockArbiter

theorem attributed_perform {world : LockWorld} (attributed : world.lock.Attributed)
    (operation : LockOperation) : (world.perform operation).lock.Attributed := by
  cases operation with
  | request denial requester => exact attributed.request world.state denial requester
  | tryAcquire requester => exact attributed.tryAcquire world.state requester
  | release pid => exact attributed.release pid
  | acquireForMount => exact attributed.acquireForMount
  | releaseForMount => exact attributed.releaseForMount
  | clear => exact attributed_clear world.lock
  | tick isAlive =>
      exact List.foldlRecOn world.lock.watched _ (motive := Attributed) attributed
        fun _ kept pid _ => kept.check isAlive pid
  | look isAlive pid =>
      rw [perform]
      split
      · exact attributed.check isAlive pid
      · exact attributed
  | move requested =>
      rw [perform]
      split <;> exact attributed

theorem attributed_performAll {world : LockWorld} (attributed : world.lock.Attributed)
    (operations : List LockOperation) : (world.performAll operations).lock.Attributed :=
  List.foldlRecOn operations _ (motive := fun after : LockWorld => after.lock.Attributed)
    attributed fun _ kept operation _ => attributed_perform kept operation

/-- After any operations there is a session exactly if a process has the lock that gave one, and it
is the one that this process gave when it took the lock last. -/
theorem session_follows_holder (state : MountState) (operations : List LockOperation) :
    let lock := (performAll operations ⟨state, .free⟩).lock
    ∀ id, lock.sessionId = some id ↔
      ∃ requester, lock.holder = some (.process requester) ∧
        requester.sessionId = id ∧ id ≠ "" := by
  intro lock id
  have attributed : lock.Attributed := attributed_performAll attributed_free operations
  rw [attributed, holderSession?_eq_some_iff]

end LockWorld

end Enlistment
