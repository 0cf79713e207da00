import Enlistment.Proofs.Lock.Exclusion
import Mathlib.Data.List.Nodup

/-!
The processes that are watched, over whole runs. A process that takes the lock by a request is
watched for as long as it has it, by one watcher; once all watchers have looked, in whatever order,
a process that is gone has lost the lock, one that is alive has kept it, and no other is watched.
-/

namespace Enlistment

open Control

namespace LockArbiter

/-- The process that has the lock is watched, and no process is watched twice. -/
structure Watchful (arbiter : LockArbiter) : Prop where
  holder : ∀ pid, arbiter.owner? = some (.process pid) → pid ∈ arbiter.watched
  once : arbiter.watched.Nodup

theorem watchful_free : free.Watchful :=
  ⟨nofun, .nil⟩

variable {arbiter : LockArbiter} {requester holder : Requester} {isAlive : Nat → Bool}

theorem owner?_ne_of_unheld (unheld : arbiter.process? = none) (pid : Nat) :
    arbiter.owner? ≠ some (.process pid) := by
  intro owned
  rw [← process?_pid, unheld] at owned
  contradiction

/-- A lock that no process has needs no watcher. -/
theorem watchful_of_unheld (unheld : arbiter.process? = none) (once : arbiter.watched.Nodup) :
    arbiter.Watchful :=
  ⟨fun pid owned => absurd owned (owner?_ne_of_unheld unheld pid), once⟩

@[simp]
theorem mem_watched_watch {pid other : Nat} :
    other ∈ (arbiter.watch pid).watched ↔ other ∈ arbiter.watched ∨ other = pid := by
  rw [watch, List.contains_eq_mem]
  by_cases watched : pid ∈ arbiter.watched
  · rw [decide_eq_true watched, if_pos rfl]
    constructor
    · exact .inl
    · rintro (known | rfl)
      · exact known
      · exact watched
  · rw [decide_eq_false watched, if_neg Bool.false_ne_true]
    simp

theorem nodup_watched_watch (pid : Nat) (once : arbiter.watched.Nodup) :
    (arbiter.watch pid).watched.Nodup := by
  rw [watch, List.contains_eq_mem]
  by_cases watched : pid ∈ arbiter.watched
  · rw [decide_eq_true watched, if_pos rfl]
    exact once
  · rw [decide_eq_false watched, if_neg Bool.false_ne_true]
    exact once.append (List.nodup_singleton pid) (by simpa using watched)

/-- A process that gets the lock is watched from then on. -/
theorem Watchful.grant (watchful : arbiter.Watchful) (requester : Requester) :
    ((arbiter.grant requester).watch requester.pid).Watchful := by
  refine ⟨?_, nodup_watched_watch _ watchful.once⟩
  intro pid owned
  rw [owner?_watch] at owned
  have same : requester.pid = pid := by
    simpa [LockArbiter.grant, setSession, owner?, LockHolder.owner] using owned
  exact mem_watched_watch.mpr (.inr same.symm)

theorem Watchful.clear (watchful : arbiter.Watchful) : arbiter.clear.Watchful :=
  watchful_of_unheld rfl watchful.once

/-- Only a process that does not have the lock may go unwatched. -/
theorem Watchful.unwatch (watchful : arbiter.Watchful) {pid : Nat}
    (other : arbiter.owner? ≠ some (.process pid)) : (arbiter.unwatch pid).Watchful := by
  refine ⟨?_, watchful.once.filter _⟩
  intro owner owned
  have different : owner ≠ pid := by
    rintro rfl
    exact other owned
  exact List.mem_filter.mpr ⟨watchful.holder owner owned, by simpa using different⟩

theorem Watchful.check (watchful : arbiter.Watchful) (isAlive : Nat → Bool) (pid : Nat) :
    (arbiter.check isAlive pid).Watchful := by
  rw [check_eq]
  split
  · split
    · exact watchful
    · exact watchful.clear.unwatch nofun
  · rename_i other
    exact watchful.unwatch other

/-! ### All watchers look -/

/-- Looks that do not find the holder gone only end the watching of others. -/
theorem foldl_check_of_kept {looks : List Nat}
    (kept : ∀ pid ∈ looks, arbiter.owner? = some (.process pid) → isAlive pid = true) :
    looks.foldl (LockArbiter.check isAlive) arbiter =
      { arbiter with
        watched := arbiter.watched.filter fun pid =>
          arbiter.owner? = some (.process pid) ∨ pid ∉ looks } := by
  induction looks generalizing arbiter with
  | nil =>
      have all : (arbiter.watched.filter fun pid =>
          arbiter.owner? = some (.process pid) ∨ pid ∉ ([] : List Nat)) = arbiter.watched :=
        List.filter_eq_self.mpr (by simp)
      rw [all]
      rfl
  | cons pid rest ih =>
      have later : ∀ other ∈ rest, arbiter.owner? = some (.process other) → isAlive other = true :=
        fun other member => kept other (List.mem_cons_of_mem pid member)
      rw [List.foldl_cons, check_eq]
      by_cases own : arbiter.owner? = some (.process pid)
      · rw [if_pos own, if_pos (kept pid List.mem_cons_self own), ih later]
        congr 1
        refine List.filter_congr fun other _ => ?_
        simp only [List.mem_cons]
        grind
      · rw [if_neg own, @ih (arbiter.unwatch pid) later]
        simp only [owner?_unwatch]
        simp only [unwatch, List.filter_filter]
        congr 1
        refine List.filter_congr fun other _ => ?_
        simp only [List.mem_cons]
        grind

theorem foldl_check_of_unheld (unheld : arbiter.process? = none) (looks : List Nat) :
    looks.foldl (LockArbiter.check isAlive) arbiter =
      { arbiter with watched := arbiter.watched.filter fun pid => pid ∉ looks } := by
  have nobody := owner?_ne_of_unheld unheld
  rw [foldl_check_of_kept fun pid _ owned => absurd owned (nobody pid)]
  simp only [nobody, false_or]

theorem watched_unwatch (pid : Nat) (pids : List Nat) (arbiter : LockArbiter) :
    ((arbiter.unwatch pid).watched.filter fun other => other ∉ pids) =
      arbiter.watched.filter fun other => other ∉ pid :: pids := by
  rw [unwatch, List.filter_filter]
  refine List.filter_congr fun other _ => ?_
  simp only [List.mem_cons]
  grind

theorem foldl_check_of_gone (held : arbiter.holder = some (.process holder))
    (gone : isAlive holder.pid = false) {looks : List Nat} (looked : holder.pid ∈ looks) :
    looks.foldl (LockArbiter.check isAlive) arbiter =
      { arbiter.clear with watched := arbiter.watched.filter fun pid => pid ∉ looks } := by
  induction looks generalizing arbiter with
  | nil => contradiction
  | cons pid rest ih =>
      rw [List.foldl_cons, check_eq, ← watched_unwatch]
      by_cases own : holder.pid = pid
      · have owned : arbiter.owner? = some (.process pid) :=
          owner?_eq_process_iff.mpr ⟨holder, held, own⟩
        have dead : ¬isAlive pid = true := by
          rw [← own, gone]
          exact Bool.false_ne_true
        -- From here on nobody has the lock, and the looks that are left only end watching.
        have unheld : (arbiter.clear.unwatch pid).process? = none := rfl
        rw [if_pos owned, if_neg dead, foldl_check_of_unheld unheld]
        rfl
      · have other : arbiter.owner? ≠ some (.process pid) := by
          rw [owner?, held]
          simpa [LockHolder.owner] using own
        have later : holder.pid ∈ rest := (List.mem_cons.mp looked).resolve_left own
        have keeps : (arbiter.unwatch pid).holder = some (.process holder) := held
        rw [if_neg other, ih keeps later]
        rfl

def looked (isAlive : Nat → Bool) (arbiter : LockArbiter) : LockArbiter :=
  match arbiter.process? with
  | some holder =>
      if isAlive holder.pid then { arbiter with watched := [holder.pid] }
      else { arbiter.clear with watched := [] }
  | none => { arbiter with watched := [] }

theorem filter_not_mem_of_perm {pids looks : List Nat} (order : looks.Perm pids) :
    (pids.filter fun pid => pid ∉ looks) = [] := by
  rw [List.filter_eq_nil_iff]
  intro pid watched
  simpa using order.mem_iff.mpr watched

theorem filter_eq_or_not_mem_of_perm {pids looks : List Nat} (order : looks.Perm pids)
    (once : pids.Nodup) {pid : Nat} (member : pid ∈ pids) :
    (pids.filter fun other => other = pid ∨ other ∉ looks) = [pid] := by
  have only : (pids.filter fun other => other = pid ∨ other ∉ looks) = pids.filter (· == pid) := by
    refine List.filter_congr fun other known => ?_
    have looked := order.mem_iff.mpr known
    grind
  rw [only, List.filter_beq, List.count_eq_one_of_mem once member]
  rfl

theorem Watchful.foldl_check (watchful : arbiter.Watchful) {looks : List Nat}
    (order : looks.Perm arbiter.watched) :
    looks.foldl (LockArbiter.check isAlive) arbiter = arbiter.looked isAlive := by
  rw [looked]
  cases process : arbiter.process? with
  | none => rw [foldl_check_of_unheld process, filter_not_mem_of_perm order]
  | some holder =>
      have held := process?_eq_some_iff.mp process
      have watched := watchful.holder holder.pid (owner?_of_process? process)
      dsimp only
      split
      · rename_i alive
        have own : ∀ pid, arbiter.owner? = some (.process pid) ↔ pid = holder.pid := by
          intro pid
          rw [owner?_of_process? process]
          simp [eq_comm]
        have kept : ∀ pid ∈ looks, arbiter.owner? = some (.process pid) → isAlive pid = true := by
          intro pid _ owned
          rwa [(own pid).mp owned]
        rw [foldl_check_of_kept kept]
        simp only [own, filter_eq_or_not_mem_of_perm order watchful.once watched]
      · rename_i gone
        rw [foldl_check_of_gone held (by simpa using gone) (order.mem_iff.mpr watched),
          filter_not_mem_of_perm order]

theorem Watchful.tick_eq (watchful : arbiter.Watchful) (isAlive : Nat → Bool) :
    arbiter.tick isAlive = arbiter.looked isAlive :=
  watchful.foldl_check (.refl _)

theorem holder_looked_of_held (held : arbiter.holder = some (.process holder)) :
    (arbiter.looked isAlive).holder = if isAlive holder.pid then arbiter.holder else none := by
  rw [looked, process?_eq_some_iff.mpr held]
  dsimp only
  split <;> rfl

theorem holder_looked_of_unheld (unheld : arbiter.process? = none) :
    (arbiter.looked isAlive).holder = arbiter.holder := by
  rw [looked, unheld]

theorem mem_watched_looked (isAlive : Nat → Bool) (arbiter : LockArbiter) (pid : Nat) :
    pid ∈ (arbiter.looked isAlive).watched ↔
      (arbiter.looked isAlive).owner? = some (.process pid) := by
  unfold looked
  split
  · rename_i holder held
    split
    · have owned : ({ arbiter with watched := [holder.pid] } : LockArbiter).owner? =
          some (.process holder.pid) := owner?_of_process? held
      rw [owned]
      simp [eq_comm]
    · simp [owner?, LockArbiter.clear, clearSession]
  · rename_i unheld
    have other : ({ arbiter with watched := [] } : LockArbiter).owner? ≠ some (.process pid) :=
      owner?_ne_of_unheld unheld pid
    simpa using other

end LockArbiter

def LockOperation.takesByRequest : LockOperation → Bool
  | .tryAcquire _ => false
  | _ => true

namespace LockWorld

open LockArbiter

theorem watchful_perform {world : LockWorld} (watchful : world.lock.Watchful)
    {operation : LockOperation} (byRequest : operation.takesByRequest = true) :
    (world.perform operation).lock.Watchful := by
  cases operation with
  | request denial requester =>
      rcases request_cases world.state denial requester world.lock with
        ⟨_, _, _, _, taken⟩ | ⟨_, same⟩
      · rw [perform, taken]
        exact watchful.grant requester
      · rw [perform, same]
        exact watchful
  -- Nobody is watched who takes the lock directly.
  | tryAcquire requester => exact absurd byRequest Bool.false_ne_true
  | release pid =>
      rcases release_cases pid world.lock with ⟨_, freed⟩ | ⟨_, same⟩
      · rw [perform, freed]
        exact watchful.clear
      · rw [perform, same]
        exact watchful
  | acquireForMount =>
      rw [perform, acquireForMount]
      split
      · exact watchful
      · exact watchful_of_unheld rfl watchful.once
  | releaseForMount =>
      rw [perform, releaseForMount]
      split
      · exact watchful_of_unheld rfl watchful.once
      · exact watchful
  | clear => exact watchful.clear
  | tick isAlive =>
      exact List.foldlRecOn world.lock.watched _ (motive := LockArbiter.Watchful) watchful
        fun _ kept pid _ => kept.check isAlive pid
  | look isAlive pid =>
      rw [perform]
      split
      · exact watchful.check isAlive pid
      · exact watchful
  | move requested =>
      rw [perform]
      split <;> exact watchful

theorem watchful_performAll {world : LockWorld} (watchful : world.lock.Watchful)
    {operations : List LockOperation}
    (byRequest : ∀ operation ∈ operations, operation.takesByRequest = true) :
    (world.performAll operations).lock.Watchful :=
  List.foldlRecOn operations _ (motive := fun after : LockWorld => after.lock.Watchful) watchful
    fun _ kept operation member => watchful_perform kept (byRequest operation member)

/-- Wherever processes take the lock by requests, the one that has it is watched, and none twice.
When every watcher has looked, in any order, that process has lost the lock exactly if it is gone,
the mount has kept it, and a process is watched exactly if it has the lock. -/
theorem watched_while_held (state : MountState) {operations : List LockOperation}
    (byRequest : ∀ operation ∈ operations, operation.takesByRequest = true) :
    let lock := (performAll operations ⟨state, .free⟩).lock
    (∀ pid, lock.owner? = some (.process pid) → pid ∈ lock.watched) ∧
    lock.watched.Nodup ∧
    ∀ isAlive : Nat → Bool,
      (∀ looks : List Nat, looks.Perm lock.watched →
        looks.foldl (LockArbiter.check isAlive) lock = lock.tick isAlive) ∧
      (∀ requester, lock.holder = some (.process requester) →
        (lock.tick isAlive).holder = if isAlive requester.pid then lock.holder else none) ∧
      (lock.process? = none → (lock.tick isAlive).holder = lock.holder) ∧
      ∀ pid, pid ∈ (lock.tick isAlive).watched ↔
        (lock.tick isAlive).owner? = some (.process pid) := by
  intro lock
  have watchful : lock.Watchful := watchful_performAll watchful_free byRequest
  refine ⟨watchful.holder, watchful.once, ?_⟩
  intro isAlive
  rw [watchful.tick_eq]
  refine ⟨?_, ?_, holder_looked_of_unheld, mem_watched_looked isAlive lock⟩
  · intro looks order
    exact watchful.foldl_check order
  · intro requester held
    exact holder_looked_of_held held

/-- A process that gives the lock to another one and gets it back before anybody looks. -/
theorem watched_on_return :
    let first : Requester := ⟨7, false, false, "git status", ""⟩
    let second : Requester := ⟨8, false, false, "git gc", ""⟩
    let operations : List LockOperation := [.move .ready, .request none first, .release 7,
      .request none second, .release 8, .request none first]
    let lock := (performAll operations ⟨.mounting, .free⟩).lock
    (∀ operation ∈ operations, operation.takesByRequest = true) ∧
    lock.holder = some (.process first) ∧ 7 ∈ lock.watched ∧ lock.watched.Nodup ∧
    (lock.tick fun _ => false).holder = none ∧
    (lock.tick (· == 7)).holder = some (.process first) ∧
    7 ∈ (lock.tick (· == 7)).watched ∧ 8 ∉ (lock.tick (· == 7)).watched := by
  intro first second operations lock
  have byRequest : ∀ operation ∈ operations, operation.takesByRequest = true := by decide
  have held : lock.holder = some (.process first) := by decide
  obtain ⟨watched, once, looks⟩ := watched_while_held .mounting byRequest
  have evicted := (looks fun _ => false).2.1 first held
  obtain ⟨_, kept, _, left⟩ := looks (· == 7)
  have stays : (lock.tick (· == 7)).holder = some (.process first) := (kept first held).trans held
  have owner : (lock.tick (· == 7)).owner? = some (.process 7) :=
    owner?_eq_process_iff.mpr ⟨first, stays, rfl⟩
  refine ⟨byRequest, held, watched 7 ?_, once, evicted, stays, (left 7).mpr owner, ?_⟩
  · exact owner?_eq_process_iff.mpr ⟨first, held, rfl⟩
  · intro stillWatched
    have both := owner.symm.trans ((left 8).mp stillWatched)
    exact absurd both (by decide)

end LockWorld

end Enlistment
