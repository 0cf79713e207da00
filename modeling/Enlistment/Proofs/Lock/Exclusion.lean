import Enlistment.Proofs.Lock.Operations

/-!
Who has the lock, over whole runs. The lock never goes from one owner to another: between two
grants to different owners there is an operation that took the lock from the first one, and only
a release in its name, a clearing, or a look that found it gone does that.
-/

namespace Enlistment

open Control

namespace LockArbiter

theorem acquireForMount_cases (arbiter : LockArbiter) :
    (arbiter.acquireForMount.1 = true ∧
      (arbiter.owner? = none ∨ arbiter.owner? = some .mount) ∧
      arbiter.acquireForMount.2.owner? = some .mount) ∨
    (arbiter.acquireForMount.1 = false ∧ arbiter.acquireForMount.2 = arbiter) := by
  cases held : arbiter.holder with
  | none => simp [acquireForMount, held, owner?, LockHolder.owner]
  | some holder =>
      cases holder <;> simp [acquireForMount, held, owner?, LockHolder.owner]

theorem releaseForMount_cases (arbiter : LockArbiter) :
    (arbiter.owner? = some .mount ∧ arbiter.releaseForMount.owner? = none) ∨
    arbiter.releaseForMount = arbiter := by
  cases held : arbiter.holder with
  | none => simp [releaseForMount, held]
  | some holder =>
      cases holder <;> simp [releaseForMount, held, owner?, LockHolder.owner]

theorem check_cases (isAlive : Nat → Bool) (arbiter : LockArbiter) (pid : Nat) :
    (arbiter.owner? = some (.process pid) ∧ isAlive pid = false ∧
      (arbiter.check isAlive pid).owner? = none) ∨
    (arbiter.check isAlive pid).owner? = arbiter.owner? := by
  rw [check_eq]
  split
  · rename_i own
    split
    · exact .inr rfl
    · rename_i gone
      exact .inl ⟨own, by simpa using gone, rfl⟩
  · exact .inr rfl

theorem foldl_check_cases (isAlive : Nat → Bool) (pids : List Nat) (arbiter : LockArbiter) :
    (∃ pid, arbiter.owner? = some (.process pid) ∧ isAlive pid = false ∧
      (pids.foldl (check isAlive) arbiter).owner? = none) ∨
    (pids.foldl (check isAlive) arbiter).owner? = arbiter.owner? := by
  induction pids generalizing arbiter with
  | nil => exact .inr rfl
  | cons pid rest ih =>
      rw [List.foldl_cons]
      rcases check_cases isAlive arbiter pid with ⟨held, gone, freed⟩ | same
      · rcases ih (arbiter.check isAlive pid) with ⟨other, regained, _⟩ | kept
        · rw [freed] at regained
          exact absurd regained (by simp)
        · exact .inl ⟨pid, held, gone, kept.trans freed⟩
      · rw [← same]
        exact ih (arbiter.check isAlive pid)

end LockArbiter

structure LockWorld where
  state : MountState
  lock : LockArbiter

inductive LockOperation where
  | request (denial : Option String) (requester : Requester)
  | tryAcquire (requester : Requester)
  | release (pid : Nat)
  | acquireForMount
  | releaseForMount
  | clear
  | tick (isAlive : Nat → Bool)
  | look (isAlive : Nat → Bool) (pid : Nat)
  | move (requested : MountState)

namespace LockOperation

def endsHoldingOf : LockOperation → LockOwner → Prop
  | .release pid, owner => owner = .process pid
  | .clear, _ => True
  | .tick isAlive, owner => ∃ pid, owner = .process pid ∧ isAlive pid = false
  | .look isAlive pid, owner => owner = .process pid ∧ isAlive pid = false
  | .releaseForMount, owner => owner = .mount
  | _, _ => False

def asks : LockOperation → Prop
  | .request _ _ => True
  | .tryAcquire _ => True
  | .acquireForMount => True
  | _ => False

end LockOperation

namespace LockWorld

def perform (world : LockWorld) : LockOperation → LockWorld
  | .request denial requester =>
      { world with lock := (world.lock.request world.state denial requester).2 }
  | .tryAcquire requester => { world with lock := (world.lock.tryAcquire world.state requester).2 }
  | .release pid => { world with lock := (world.lock.release pid).2 }
  | .acquireForMount => { world with lock := world.lock.acquireForMount.2 }
  | .releaseForMount => { world with lock := world.lock.releaseForMount }
  | .clear => { world with lock := world.lock.clear }
  | .tick isAlive => { world with lock := world.lock.tick isAlive }
  | .look isAlive pid =>
      if pid ∈ world.lock.watched then { world with lock := world.lock.check isAlive pid }
      else world
  | .move requested =>
      match world.state.transition requested with
      | .ok state => { world with state }
      | .error _ => world

def performAll (operations : List LockOperation) (world : LockWorld) : LockWorld :=
  operations.foldl perform world

/-- To whom an operation answers that the lock is theirs. -/
def granted? (world : LockWorld) : LockOperation → Option LockOwner
  | .request denial requester =>
      if (world.lock.request world.state denial requester).1.result = .acquired then
        some (.process requester.pid)
      else none
  | .tryAcquire requester =>
      if (world.lock.tryAcquire world.state requester).1.acquired then
        some (.process requester.pid)
      else none
  | .acquireForMount => if world.lock.acquireForMount.1 then some .mount else none
  | _ => none

def owner? (world : LockWorld) : Option LockOwner :=
  world.lock.owner?

theorem owner?_of_granted {world : LockWorld} {operation : LockOperation} {owner : LockOwner}
    (granted : world.granted? operation = some owner) :
    (world.owner? = none ∨ world.owner? = some owner) ∧
      (world.perform operation).owner? = some owner := by
  cases operation with
  | request denial requester =>
      simp only [granted?, Option.ite_none_right_eq_some, Option.some.injEq] at granted
      obtain ⟨acquired, rfl⟩ := granted
      rcases world.lock.request_cases world.state denial requester with
        ⟨_, _, _, openTo, after⟩ | ⟨denied, _⟩
      · refine ⟨openTo, ?_⟩
        simp [perform, owner?, after]
      · exact absurd acquired denied
  | tryAcquire requester =>
      simp only [granted?, Option.ite_none_right_eq_some, Option.some.injEq] at granted
      obtain ⟨acquired, rfl⟩ := granted
      rcases world.lock.tryAcquire_cases world.state requester with
        ⟨_, _, openTo, after⟩ | ⟨refused, _⟩
      · refine ⟨openTo, ?_⟩
        simp [perform, owner?, after]
      · exact absurd acquired (by simp [refused])
  | acquireForMount =>
      simp only [granted?, Option.ite_none_right_eq_some, Option.some.injEq] at granted
      obtain ⟨acquired, rfl⟩ := granted
      rcases world.lock.acquireForMount_cases with ⟨_, before, after⟩ | ⟨refused, _⟩
      · exact ⟨before, after⟩
      · exact absurd acquired (by simp [refused])
  | release pid => simp [granted?] at granted
  | releaseForMount => simp [granted?] at granted
  | clear => simp [granted?] at granted
  | tick isAlive => simp [granted?] at granted
  | look isAlive pid => simp [granted?] at granted
  | move requested => simp [granted?] at granted

/-- One operation leaves the owner as it is, or grants the lock, or takes it from its owner. -/
theorem owner?_perform (operation : LockOperation) (world : LockWorld) :
    (world.perform operation).owner? = world.owner? ∨
    (∃ owner, world.granted? operation = some owner) ∨
    ∃ owner, world.owner? = some owner ∧ (world.perform operation).owner? = none ∧
      operation.endsHoldingOf owner := by
  cases operation with
  | request denial requester =>
      rcases world.lock.request_cases world.state denial requester with
        ⟨acquired, _⟩ | ⟨_, same⟩
      · exact .inr (.inl ⟨_, if_pos acquired⟩)
      · exact .inl (congrArg LockArbiter.owner? same)
  | tryAcquire requester =>
      rcases world.lock.tryAcquire_cases world.state requester with ⟨acquired, _⟩ | ⟨_, same⟩
      · exact .inr (.inl ⟨_, if_pos acquired⟩)
      · exact .inl (congrArg LockArbiter.owner? same)
  | acquireForMount =>
      rcases world.lock.acquireForMount_cases with ⟨acquired, _⟩ | ⟨_, same⟩
      · exact .inr (.inl ⟨_, if_pos acquired⟩)
      · exact .inl (congrArg LockArbiter.owner? same)
  | release pid =>
      rcases world.lock.release_cases pid with ⟨held, freed⟩ | ⟨_, same⟩
      · exact .inr (.inr ⟨_, held, congrArg (fun result => result.2.owner?) freed, rfl⟩)
      · exact .inl (congrArg (fun result => result.2.owner?) same)
  | releaseForMount =>
      rcases world.lock.releaseForMount_cases with ⟨held, freed⟩ | same
      · exact .inr (.inr ⟨_, held, freed, rfl⟩)
      · exact .inl (congrArg LockArbiter.owner? same)
  | clear =>
      cases held : world.owner? with
      | none => exact .inl rfl
      | some owner => exact .inr (.inr ⟨owner, rfl, rfl, trivial⟩)
  | tick isAlive =>
      rcases world.lock.foldl_check_cases isAlive world.lock.watched with
        ⟨pid, held, gone, freed⟩ | same
      · exact .inr (.inr ⟨_, held, freed, pid, rfl, gone⟩)
      · exact .inl same
  | look isAlive pid =>
      simp only [perform]
      split
      · rcases world.lock.check_cases isAlive pid with ⟨held, gone, freed⟩ | same
        · exact .inr (.inr ⟨_, held, freed, rfl, gone⟩)
        · exact .inl same
      · exact .inl rfl
  | move requested =>
      simp only [perform]
      split <;> exact .inl rfl

/-- In a run an owner keeps the lock until an operation takes it away. -/
theorem held_until_ended {owner : LockOwner} (operations : List LockOperation)
    {world : LockWorld} (held : world.owner? = some owner) :
    (world.performAll operations).owner? = some owner ∨
    ∃ before operation after, operations = before ++ operation :: after ∧
      (world.performAll before).owner? = some owner ∧
      ((world.performAll before).perform operation).owner? = none ∧
      operation.endsHoldingOf owner := by
  induction operations generalizing world with
  | nil => exact .inl held
  | cons first rest ih =>
      have later : (world.perform first).owner? = some owner →
          (world.performAll (first :: rest)).owner? = some owner ∨
          ∃ before operation after, first :: rest = before ++ operation :: after ∧
            (world.performAll before).owner? = some owner ∧
            ((world.performAll before).perform operation).owner? = none ∧
            operation.endsHoldingOf owner := by
        intro kept
        rcases ih kept with stillHeld | ⟨before, operation, after, split, found⟩
        · exact .inl stillHeld
        · exact .inr ⟨first :: before, operation, after, by rw [split]; rfl, found⟩
      rcases owner?_perform first world with same | ⟨other, granted⟩ | ⟨other, was, freed, ends⟩
      · exact later (same.trans held)
      · obtain ⟨free | same, after⟩ := owner?_of_granted granted
        · rw [held] at free
          exact absurd free (by simp)
        · rw [held, Option.some.injEq] at same
          subst same
          exact later after
      · rw [held, Option.some.injEq] at was
        subst was
        exact .inr ⟨[], first, rest, rfl, held, freed, ends⟩

theorem ready_of_granted {world : LockWorld} {operation : LockOperation} {pid : Nat}
    (granted : world.granted? operation = some (.process pid)) : world.state = .ready := by
  cases operation with
  | request denial requester =>
      simp only [granted?, Option.ite_none_right_eq_some] at granted
      rcases world.lock.request_cases world.state denial requester with
        ⟨_, ready, _⟩ | ⟨denied, _⟩
      · exact ready
      · exact absurd granted.1 denied
  | tryAcquire requester =>
      simp only [granted?, Option.ite_none_right_eq_some] at granted
      rcases world.lock.tryAcquire_cases world.state requester with ⟨_, ready, _⟩ | ⟨refused, _⟩
      · exact ready
      · exact absurd granted.1 (by simp [refused])
  | acquireForMount => simp [granted?] at granted
  | release pid => simp [granted?] at granted
  | releaseForMount => simp [granted?] at granted
  | clear => simp [granted?] at granted
  | tick isAlive => simp [granted?] at granted
  | look isAlive pid => simp [granted?] at granted
  | move requested => simp [granted?] at granted

theorem perform_of_denied {world : LockWorld} {operation : LockOperation}
    (asked : operation.asks) (denied : world.granted? operation = none) :
    world.perform operation = world := by
  cases operation with
  | request denial requester =>
      simp only [granted?, ite_eq_right_iff, reduceCtorEq, imp_false] at denied
      rcases world.lock.request_cases world.state denial requester with ⟨acquired, _⟩ | ⟨_, same⟩
      · exact absurd acquired denied
      · rw [perform, same]
  | tryAcquire requester =>
      simp only [granted?, ite_eq_right_iff, reduceCtorEq, imp_false] at denied
      rcases world.lock.tryAcquire_cases world.state requester with ⟨acquired, _⟩ | ⟨_, same⟩
      · exact absurd acquired denied
      · rw [perform, same]
  | acquireForMount =>
      simp only [granted?, ite_eq_right_iff, reduceCtorEq, imp_false] at denied
      rcases world.lock.acquireForMount_cases with ⟨acquired, _⟩ | ⟨_, same⟩
      · exact absurd acquired denied
      · rw [perform, same]
  | release pid => exact asked.elim
  | releaseForMount => exact asked.elim
  | clear => exact asked.elim
  | tick isAlive => exact asked.elim
  | look isAlive pid => exact asked.elim
  | move requested => exact asked.elim

theorem granted?_of_check {requester : Requester} (check : requester.checkAvailabilityOnly = true)
    (denial : Option String) (world : LockWorld) :
    world.granted? (.request denial requester) = none := by
  rcases world.lock.request_cases world.state denial requester with
    ⟨_, _, taken, _⟩ | ⟨denied, _⟩
  · rw [check] at taken
    exact absurd taken (by simp)
  · exact if_neg denied

theorem perform_of_stale_release {world : LockWorld} {pid : Nat}
    (stale : world.owner? ≠ some (.process pid)) : world.perform (.release pid) = world := by
  rcases world.lock.release_cases pid with ⟨held, _⟩ | ⟨_, same⟩
  · exact absurd held stale
  · rw [perform, same]

@[simp]
theorem performAll_append (earlier later : List LockOperation) (world : LockWorld) :
    world.performAll (earlier ++ later) = (world.performAll earlier).performAll later := by
  exact List.foldl_append

/-- Mutual exclusion over whole runs, from any lock in any state. Between two grants to different
owners the first one's holding was ended, by an operation that may do that; a process is granted
the lock only while the mount is ready; and what was denied, what only asked, and what released in
another name changed nothing. -/
theorem mutual_exclusion (world : LockWorld) :
    (∀ earlier first between second owner other,
      (world.performAll earlier).granted? first = some owner →
      (world.performAll (earlier ++ first :: between)).granted? second = some other →
      owner ≠ other →
      ∃ before operation after, between = before ++ operation :: after ∧
        (world.performAll (earlier ++ first :: before)).owner? = some owner ∧
        (world.performAll (earlier ++ first :: before ++ [operation])).owner? = none ∧
        operation.endsHoldingOf owner) ∧
    (∀ earlier operation pid, (world.performAll earlier).granted? operation = some (.process pid) →
      (world.performAll earlier).state = .ready) ∧
    (∀ earlier operation, operation.asks →
      (world.performAll earlier).granted? operation = none →
      world.performAll (earlier ++ [operation]) = world.performAll earlier) ∧
    (∀ earlier denial requester, requester.checkAvailabilityOnly = true →
      world.performAll (earlier ++ [.request denial requester]) = world.performAll earlier) ∧
    ∀ earlier pid, (world.performAll earlier).owner? ≠ some (.process pid) →
      world.performAll (earlier ++ [.release pid]) = world.performAll earlier := by
  refine ⟨?_, fun _ _ _ => ready_of_granted, ?_, ?_, ?_⟩
  · intro earlier first between second owner other granted regranted different
    have held := (owner?_of_granted granted).2
    rcases held_until_ended between held with
      kept | ⟨before, operation, after, split, was, freed, ends⟩
    · rw [performAll_append] at regranted
      obtain ⟨free | same, _⟩ := owner?_of_granted regranted
      · exact absurd (kept.symm.trans free) (by simp)
      · exact absurd (Option.some.inj (kept.symm.trans same)) different
    · refine ⟨before, operation, after, split, ?_, ?_, ends⟩
      · rw [performAll_append]
        exact was
      · rw [performAll_append, performAll_append]
        exact freed
  · intro earlier operation asked denied
    rw [performAll_append]
    exact perform_of_denied asked denied
  · intro earlier denial requester check
    rw [performAll_append]
    have asked : (LockOperation.request denial requester).asks := trivial
    exact perform_of_denied asked (granted?_of_check check denial _)
  · intro earlier pid stale
    rw [performAll_append]
    exact perform_of_stale_release stale

theorem mutual_exclusion_between_two_processes :
    ∃ before operation after,
      [.release 2, .release 1] = before ++ operation :: after ∧
      (performAll (.tryAcquire ⟨1, false, false, "git status", ""⟩ :: before)
        ⟨.ready, .free⟩).owner? = some (.process 1) ∧
      (performAll (.tryAcquire ⟨1, false, false, "git status", ""⟩ :: before ++ [operation])
        ⟨.ready, .free⟩).owner? = none ∧
      operation.endsHoldingOf (.process 1) := by
  exact (mutual_exclusion ⟨.ready, .free⟩).1 [] _ [.release 2, .release 1]
    (.tryAcquire ⟨2, false, false, "git commit", ""⟩) (.process 1) (.process 2)
    rfl rfl (by decide)

end LockWorld

end Enlistment
