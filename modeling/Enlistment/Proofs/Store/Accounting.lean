import Enlistment.Proofs.Store.Statements
import Mathlib.Data.List.Range
import Mathlib.Data.List.Nodup

/-!
Where the connections of a pool are. Every connection that was ever opened is idle, out or closed,
and only one of these, whatever is done with the pool; so nobody is handed a connection that somebody
else has, and none is lost. Once the pool is shut down no connection is idle any more.
-/

namespace Enlistment

namespace Pool

variable {pool lent : Pool} {connection : Connection}

/-- A connection that is handed out was idle, and waited longest, or none was and it is new. -/
theorem acquire_cases (acquired : pool.acquire = .ok (connection, lent)) :
    pool.isShutDown = false ∧
      (pool.idle = connection :: lent.idle ∧ lent = { pool with idle := lent.idle } ∨
        pool.idle = [] ∧ connection = ⟨pool.opened⟩ ∧ lent = { pool with opened := pool.opened + 1 }) := by
  unfold acquire at acquired
  split at acquired
  · exact absurd acquired nofun
  · rename_i isOpen
    refine ⟨by simpa using isOpen, ?_⟩
    split at acquired
    · rename_i first rest waiting
      obtain ⟨rfl, rfl⟩ := Prod.mk.inj (Except.ok.inj acquired)
      exact .inl ⟨waiting, rfl⟩
    · rename_i none
      obtain ⟨rfl, rfl⟩ := Prod.mk.inj (Except.ok.inj acquired)
      exact .inr ⟨none, rfl, rfl⟩

/-- A connection that comes back is idle if there is room for it, and else the pool takes no notice. -/
theorem release_cases (connection : Connection) (pool : Pool) :
    (pool.isShutDown = false ∧ pool.idle.length < pool.capacity ∧
        pool.release connection = { pool with idle := pool.idle ++ [connection] }) ∨
      ((pool.isShutDown = true ∨ pool.capacity ≤ pool.idle.length) ∧
        pool.release connection = pool) := by
  rw [release_eq]
  cases closed : pool.isShutDown with
  | true => exact .inr ⟨.inl rfl, if_pos rfl⟩
  | false =>
      by_cases room : pool.idle.length < pool.capacity
      · exact .inl ⟨rfl, room, by simp [room]⟩
      · exact .inr ⟨.inr (Nat.not_lt.mp room), by simp [room]⟩

end Pool

structure PoolLedger where
  pool : Pool
  out : List Connection
  closed : List Connection
deriving DecidableEq

namespace PoolLedger

inductive Action where
  | acquire
  | drop (connection : Connection)
  | shutDown
deriving DecidableEq

def opened (sizes : PoolSizes) : PoolLedger :=
  ⟨Pool.start sizes, [], []⟩

def closing (had : List Connection) (after : Pool) : List Connection :=
  had.filter (· ∉ after.idle)

def perform (ledger : PoolLedger) : Action → PoolLedger
  | .acquire =>
      match ledger.pool.acquire with
      | .ok (connection, pool) => { ledger with pool, out := ledger.out ++ [connection] }
      | .error _ => ledger
  | .drop connection =>
      if connection ∈ ledger.out then
        let pool := ledger.pool.release connection
        { pool
          out := ledger.out.erase connection
          closed := ledger.closed ++ closing (connection :: ledger.pool.idle) pool }
      else ledger
  | .shutDown =>
      let pool := ledger.pool.shutDown
      { ledger with pool, closed := ledger.closed ++ closing ledger.pool.idle pool }

def performAll (actions : List Action) (ledger : PoolLedger) : PoolLedger :=
  actions.foldl perform ledger

def everywhere (ledger : PoolLedger) : List Connection :=
  ledger.pool.idle ++ ledger.out ++ ledger.closed

/-- Each connection is in one place, and none is idle that there is no room for or that should be
closed. -/
structure Accounted (ledger : PoolLedger) : Prop where
  each : ledger.everywhere.Perm ((List.range ledger.pool.opened).map Connection.mk)
  room : ledger.pool.idle.length ≤ ledger.pool.capacity
  drained : ledger.pool.isShutDown = true → ledger.pool.idle = []

section Ledger

variable {ledger : PoolLedger}

theorem accounted_opened (sizes : PoolSizes) : (opened sizes).Accounted where
  each := by simp [everywhere, opened, Pool.start]
  room := by
    simp only [opened, Pool.start, Pool.capacityOf, List.length_map, List.length_range]
    omega
  drained := nofun

theorem Accounted.nodup (accounted : ledger.Accounted) : ledger.everywhere.Nodup :=
  accounted.each.nodup_iff.mpr
    (List.nodup_range.map fun _ _ same => congrArg Connection.number same)

theorem Accounted.length (accounted : ledger.Accounted) :
    ledger.pool.opened = ledger.pool.idle.length + ledger.out.length + ledger.closed.length := by
  simpa [everywhere, Nat.add_assoc] using accounted.each.length_eq.symm

theorem Accounted.not_idle_of_out (accounted : ledger.Accounted) {connection : Connection}
    (out : connection ∈ ledger.out) : connection ∉ ledger.pool.idle := by
  intro idle
  have apart := (List.nodup_append.mp (List.nodup_append.mp accounted.nodup).1).2.2
  exact apart connection idle connection out rfl

/-- What is new was never anywhere. -/
theorem Accounted.new_not_mem (accounted : ledger.Accounted) :
    ⟨ledger.pool.opened⟩ ∉ ledger.everywhere := by
  rw [accounted.each.mem_iff]
  simp

@[simp]
theorem closing_idle (pool : Pool) : closing pool.idle pool = [] := by
  simp [closing, List.filter_eq_nil_iff]

theorem closing_of_kept {connection : Connection} {pool : Pool} :
    closing (connection :: pool.idle) { pool with idle := pool.idle ++ [connection] } = [] := by
  rw [closing, List.filter_eq_nil_iff]
  intro had member
  simpa [or_iff_not_imp_left, not_imp_comm] using member

theorem closing_of_refused {connection : Connection} {pool : Pool}
    (absent : connection ∉ pool.idle) : closing (connection :: pool.idle) pool = [connection] := by
  rw [closing, List.filter_cons_of_pos (by simpa using absent)]
  exact congrArg (connection :: ·) (closing_idle pool)

theorem Accounted.lend {connection : Connection} {lent : Pool} (accounted : ledger.Accounted)
    (acquired : ledger.pool.acquire = .ok (connection, lent)) :
    ({ ledger with pool := lent, out := ledger.out ++ [connection] } : PoolLedger).Accounted := by
  obtain ⟨isOpen, ⟨waiting, same⟩ | ⟨none, rfl, rfl⟩⟩ := Pool.acquire_cases acquired
  · have capacity : lent.capacity = ledger.pool.capacity := by rw [same]
    have opened : lent.opened = ledger.pool.opened := by rw [same]
    have stillOpen : lent.isShutDown = false := by rw [same, isOpen]
    refine ⟨?_, ?_, fun shut => absurd shut (by simp [stillOpen])⟩
    · refine .trans ?_ (opened ▸ accounted.each)
      rw [everywhere, everywhere, waiting, List.perm_iff_count]
      intro counted
      simp only [List.count_append, List.count_cons, List.count_nil]
      omega
    · have room := accounted.room
      rw [waiting, List.length_cons] at room
      exact capacity ▸ Nat.le_of_succ_le room
  · refine ⟨?_, accounted.room, fun _ => none⟩
    rw [List.range_succ, List.map_append, List.map_singleton]
    refine .trans ?_ (accounted.each.append_right _)
    rw [everywhere, everywhere, List.perm_iff_count]
    intro counted
    simp only [List.count_append]
    omega

theorem Accounted.drop {connection : Connection} (accounted : ledger.Accounted)
    (out : connection ∈ ledger.out) : (ledger.perform (.drop connection)).Accounted := by
  have moved : ∀ counted, ledger.out.count counted =
      (ledger.out.erase connection).count counted + [connection].count counted := by
    intro counted
    rw [(List.perm_cons_erase out).count_eq, ← List.singleton_append, List.count_append,
      Nat.add_comm]
  simp only [perform, if_pos out]
  obtain ⟨isOpen, room, kept⟩ | ⟨_, kept⟩ := Pool.release_cases connection ledger.pool
  · rw [kept, closing_of_kept]
    refine ⟨.trans ?_ accounted.each, ?_, fun shut => absurd shut (by simp [isOpen])⟩
    · rw [everywhere, everywhere, List.perm_iff_count]
      intro counted
      simp only [List.count_append, List.count_nil, moved counted]
      omega
    · rw [List.length_append]
      exact room
  · rw [kept, closing_of_refused (accounted.not_idle_of_out out)]
    refine ⟨.trans ?_ accounted.each, accounted.room, accounted.drained⟩
    rw [everywhere, everywhere, List.perm_iff_count]
    intro counted
    simp only [List.count_append, moved counted]
    omega

theorem Accounted.shutDown (accounted : ledger.Accounted) :
    (ledger.perform .shutDown).Accounted := by
  have all : closing ledger.pool.idle ledger.pool.shutDown = ledger.pool.idle := by
    simp [closing, Pool.shutDown]
  simp only [perform, all]
  refine ⟨.trans ?_ accounted.each, Nat.zero_le _, fun _ => rfl⟩
  rw [everywhere, everywhere, List.perm_iff_count]
  intro counted
  simp only [Pool.shutDown, List.count_append, List.count_nil]
  omega

theorem Accounted.perform (accounted : ledger.Accounted) (action : Action) :
    (ledger.perform action).Accounted := by
  cases action with
  | acquire =>
      rw [PoolLedger.perform]
      split
      · rename_i connection lent acquired
        exact accounted.lend acquired
      · exact accounted
  | drop connection =>
      by_cases out : connection ∈ ledger.out
      · exact accounted.drop out
      · rw [PoolLedger.perform, if_neg out]
        exact accounted
  | shutDown => exact accounted.shutDown

theorem Accounted.performAll (accounted : ledger.Accounted) (actions : List Action) :
    (ledger.performAll actions).Accounted := by
  induction actions generalizing ledger with
  | nil => exact accounted
  | cons action rest ih => exact ih (accounted.perform action)

/-- How much room a pool has never changes. -/
@[simp]
theorem capacity_perform (action : Action) (ledger : PoolLedger) :
    (ledger.perform action).pool.capacity = ledger.pool.capacity := by
  cases action with
  | acquire =>
      rw [PoolLedger.perform]
      split
      · rename_i connection lent acquired
        obtain ⟨_, ⟨_, same⟩ | ⟨_, _, same⟩⟩ := Pool.acquire_cases acquired <;> rw [same]
      · rfl
  | drop connection =>
      rw [PoolLedger.perform]
      split
      · obtain ⟨_, _, kept⟩ | ⟨_, kept⟩ := Pool.release_cases connection ledger.pool <;> rw [kept]
      · rfl
  | shutDown => rfl

@[simp]
theorem capacity_performAll (actions : List Action) (ledger : PoolLedger) :
    (performAll actions ledger).pool.capacity = ledger.pool.capacity := by
  induction actions generalizing ledger with
  | nil => rfl
  | cons action rest ih => exact (ih _).trans (capacity_perform action ledger)

@[simp]
theorem isShutDown_perform (action : Action) (ledger : PoolLedger) :
    (ledger.perform action).pool.isShutDown =
      (ledger.pool.isShutDown || decide (action = .shutDown)) := by
  cases action with
  | acquire =>
      rw [PoolLedger.perform]
      split
      · rename_i connection lent acquired
        obtain ⟨_, ⟨_, same⟩ | ⟨_, _, same⟩⟩ := Pool.acquire_cases acquired <;> rw [same] <;> simp
      · simp
  | drop connection =>
      rw [PoolLedger.perform]
      split
      · simp
      · simp
  | shutDown => simp [PoolLedger.perform, Pool.shutDown]

/-- A pool is shut down from the first shutdown on, and not before. -/
theorem isShutDown_performAll_iff (actions : List Action) (ledger : PoolLedger) :
    (performAll actions ledger).pool.isShutDown = true ↔
      ledger.pool.isShutDown = true ∨ Action.shutDown ∈ actions := by
  induction actions generalizing ledger with
  | nil => simp [PoolLedger.performAll]
  | cons action rest ih =>
      have unfolded : performAll (action :: rest) ledger = performAll rest (ledger.perform action) :=
        rfl
      rw [unfolded, ih, isShutDown_perform, List.mem_cons, Bool.or_eq_true, decide_eq_true_eq,
        or_assoc, eq_comm (a := action)]

end Ledger

/-- A connection that is handed out is one that waited, if any did, and a new one otherwise; nobody
has it, and it was not closed. -/
theorem Accounted.acquire_of_open {ledger : PoolLedger} (accounted : ledger.Accounted)
    (isOpen : ledger.pool.isShutDown = false) :
    ∃ connection lent, ledger.pool.acquire = .ok (connection, lent) ∧
      connection ∉ ledger.out ∧ connection ∉ ledger.closed ∧
      (ledger.pool.idle = connection :: lent.idle ∨
        ledger.pool.idle = [] ∧ lent.opened = ledger.pool.opened + 1) := by
  obtain ⟨connection, lent, acquired, _⟩ := Pool.acquire_of_open isOpen
  refine ⟨connection, lent, acquired, ?_⟩
  obtain ⟨_, ⟨waiting, _⟩ | ⟨none, rfl, rfl⟩⟩ := Pool.acquire_cases acquired
  · have apart := accounted.nodup
    rw [everywhere, waiting, List.cons_append, List.cons_append, List.nodup_cons,
      List.mem_append, List.mem_append, not_or, not_or] at apart
    exact ⟨apart.1.1.2, apart.1.2, .inl waiting⟩
  · have unknown := accounted.new_not_mem
    rw [everywhere, List.mem_append, List.mem_append, not_or, not_or] at unknown
    exact ⟨unknown.1.2, unknown.2, .inr ⟨none, rfl⟩⟩

/-- Where the connections are after any use of a pool of any sizes. Those ever opened are idle, out
or closed, each only one of these, and there is room for the idle ones. Before a shutdown the next
acquire gets a connection that nobody has, one that waited if any did. After it no connection is idle
or handed out, one that is given up is closed, and another shutdown changes nothing. -/
theorem connections_accounted (sizes : PoolSizes) (actions : List Action) :
    let ledger := performAll actions (opened sizes)
    let pool := ledger.pool
    (pool.opened = pool.idle.length + ledger.out.length + ledger.closed.length ∧
      ledger.everywhere.Nodup ∧
      pool.idle.length ≤ max (max sizes.maxIdle sizes.initial) 1) ∧
    (Action.shutDown ∉ actions →
      ∃ connection lent, pool.acquire = .ok (connection, lent) ∧
        connection ∉ ledger.out ∧ connection ∉ ledger.closed ∧
        (pool.idle = connection :: lent.idle ∨
          pool.idle = [] ∧ lent.opened = pool.opened + 1)) ∧
    (Action.shutDown ∈ actions →
      pool.idle = [] ∧ pool.acquire = .error .shutDown ∧
      (∀ connection ∈ ledger.out, ledger.perform (.drop connection) =
        { ledger with
          out := ledger.out.erase connection
          closed := ledger.closed ++ [connection] }) ∧
      ledger.perform .shutDown = ledger) := by
  intro ledger pool
  have accounted : ledger.Accounted := (accounted_opened sizes).performAll actions
  have shut : pool.isShutDown = true ↔ Action.shutDown ∈ actions := by
    refine (isShutDown_performAll_iff actions (opened sizes)).trans ?_
    simp [opened]
  have capacity : pool.capacity = Pool.capacityOf sizes := capacity_performAll actions _
  have room : pool.idle.length ≤ Pool.capacityOf sizes := capacity ▸ accounted.room
  refine ⟨⟨accounted.length, accounted.nodup, room⟩, ?_, ?_⟩
  · intro before
    exact accounted.acquire_of_open (Bool.eq_false_iff.mpr fun done => before (shut.mp done))
  · intro done
    have isShutDown := shut.mpr done
    have none := accounted.drained isShutDown
    refine ⟨none, Pool.acquire_of_shutDown isShutDown, ?_, ?_⟩
    · intro connection out
      have refused : pool.release connection = pool := by
        rw [Pool.release_eq, if_pos isShutDown]
      simp only [perform, if_pos out]
      rw [refused, closing_of_refused (accounted.not_idle_of_out out)]
    · have same : pool.shutDown = pool := by
        rw [Pool.shutDown, ← none, ← isShutDown]
      simp only [perform]
      rw [same, closing_idle, List.append_nil]

/-- Of two connections that come back, a pool with room for one keeps the first. -/
example : performAll [.acquire, .acquire, .drop ⟨1⟩, .drop ⟨0⟩] (opened ⟨0, 0⟩) =
    ⟨⟨1, [⟨1⟩], 2, false⟩, [], [⟨0⟩]⟩ := by
  decide

end PoolLedger

end Enlistment
