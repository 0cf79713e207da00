import Enlistment.Store.Database
import Mathlib.Order.Defs.Unbundled

/-!
Statements on a store. While the pool is open a statement reaches the tables and leaves the pool
open; once it is shut down, nothing reaches the tables any more.
-/

namespace Enlistment

namespace Pool

def used (pool : Pool) : Pool :=
  match pool.acquire with
  | .ok (connection, lent) => lent.release connection
  | .error _ => pool

@[simp]
theorem isShutDown_start (sizes : PoolSizes) : (start sizes).isShutDown = false := by
  rfl

theorem acquire_of_shutDown {pool : Pool} (closed : pool.isShutDown = true) :
    pool.acquire = .error .shutDown := by
  simp [acquire, closed]

theorem acquire_of_open {pool : Pool} (isOpen : pool.isShutDown = false) :
    ∃ connection lent, pool.acquire = .ok (connection, lent) ∧ lent.isShutDown = false := by
  simp only [acquire, isOpen, Bool.false_eq_true, if_false]
  cases pool.idle with
  | nil => exact ⟨_, _, rfl, rfl⟩
  | cons connection rest => exact ⟨_, _, rfl, rfl⟩

/-- Where one thing happens after the other, nobody shuts a pool down while a connection comes back: the
second look at the pool finds it as the first one did. -/
theorem release_eq (connection : Connection) (pool : Pool) :
    pool.release connection =
      if pool.isShutDown then pool
      else if pool.idle.length < pool.capacity then
        { pool with idle := pool.idle ++ [connection] }
      else pool := by
  unfold release
  cases pool.isShutDown <;> rfl

@[simp]
theorem isShutDown_release (connection : Connection) (pool : Pool) :
    (pool.release connection).isShutDown = pool.isShutDown := by
  rw [release_eq]
  split
  · rfl
  · split <;> rfl

@[simp]
theorem isShutDown_used (pool : Pool) : pool.used.isShutDown = pool.isShutDown := by
  cases state : pool.isShutDown with
  | true => simp [used, acquire_of_shutDown state, state]
  | false =>
      obtain ⟨connection, lent, acquired, stillOpen⟩ := acquire_of_open state
      simp [used, acquired, stillOpen]

end Pool

namespace Database

variable {Answer : Type} {database : Database}

theorem run_of_shutDown (closed : database.isShutDown = true)
    (statement : Tables → Except DatabaseError (Answer × Tables)) :
    database.run statement = (.error .shutDown, database) := by
  rw [run, Pool.acquire_of_shutDown closed]

theorem run_of_open (isOpen : database.isShutDown = false)
    (statement : Tables → Except DatabaseError (Answer × Tables)) :
    database.run statement =
      match statement database.tables with
      | .error error => (.error error, ⟨database.tables, database.pool.used⟩)
      | .ok (answer, tables) => (.ok answer, ⟨tables, database.pool.used⟩) := by
  obtain ⟨connection, lent, acquired, _⟩ := Pool.acquire_of_open isOpen
  have used : database.pool.used = lent.release connection := by
    rw [Pool.used, acquired]
  cases result : statement database.tables with
  | error error => simp only [run, acquired, used, result]
  | ok found => simp only [run, acquired, used, result]

@[simp]
theorem isShutDown_used (tables : Tables) (database : Database) :
    isShutDown ⟨tables, database.pool.used⟩ = database.isShutDown :=
  database.pool.isShutDown_used

theorem isOpen_run (isOpen : database.isShutDown = false)
    (statement : Tables → Except DatabaseError (Answer × Tables)) :
    (database.run statement).2.isShutDown = false := by
  rw [run_of_open isOpen]
  split <;> simpa using isOpen

theorem update_of_open (isOpen : database.isShutDown = false) (change : Tables → Tables) :
    database.update change = (.ok (), ⟨change database.tables, database.pool.used⟩) := by
  rw [update, run_of_open isOpen]

theorem update_of_shutDown (closed : database.isShutDown = true) (change : Tables → Tables) :
    database.update change = (.error .shutDown, database) := by
  rw [update, run_of_shutDown closed]

/-- A change is made as a whole, or refused because the store was shut down. -/
theorem update_cases (change : Tables → Tables) (database : Database) :
    (database.isShutDown = false ∧
      database.update change = (.ok (), ⟨change database.tables, database.pool.used⟩)) ∨
    (database.isShutDown = true ∧ database.update change = (.error .shutDown, database)) := by
  cases state : database.isShutDown with
  | false => exact .inl ⟨rfl, update_of_open state change⟩
  | true => exact .inr ⟨rfl, update_of_shutDown state change⟩

/-- A question is put to the tables, or refused because the store was shut down. -/
theorem query_cases (statement : Tables → Except DatabaseError Answer) (database : Database) :
    (database.isShutDown = false ∧
      database.query statement =
        (statement database.tables, ⟨database.tables, database.pool.used⟩)) ∨
    (database.isShutDown = true ∧ database.query statement = (.error .shutDown, database)) := by
  cases state : database.isShutDown with
  | true => exact .inr ⟨rfl, run_of_shutDown state _⟩
  | false =>
      refine .inl ⟨rfl, ?_⟩
      rw [query, run_of_open state]
      cases answer : statement database.tables <;> simp [Except.map]

theorem openOn_of_known (sizes : PoolSizes) {tables : Tables}
    (known : tables.version ≤ Enlistment.schemaVersion) :
    openOn sizes tables =
      .ok ⟨{ tables with version := Enlistment.schemaVersion }, Pool.start sizes⟩ := by
  simp [openOn, Tables.bringUpToDate, Int.not_lt.mpr known, bind, Except.bind, pure, Except.pure]

theorem known_of_openOn {sizes : PoolSizes} {tables : Tables}
    (opened : openOn sizes tables = .ok database) :
    tables.version ≤ Enlistment.schemaVersion := by
  apply Int.not_lt.mp
  intro newer
  simp [openOn, Tables.bringUpToDate, newer, bind, Except.bind] at opened

theorem tables_of_openOn {sizes : PoolSizes} {tables : Tables}
    (opened : openOn sizes tables = .ok database) :
    database.tables = { tables with version := Enlistment.schemaVersion } := by
  rw [openOn_of_known sizes (known_of_openOn opened)] at opened
  rw [← Except.ok.inj opened]

theorem isOpen_of_openOn {sizes : PoolSizes} {tables : Tables}
    (opened : openOn sizes tables = .ok database) : database.isShutDown = false := by
  rw [openOn_of_known sizes (known_of_openOn opened)] at opened
  rw [← Except.ok.inj opened]
  exact Pool.isShutDown_start sizes

end Database

namespace Rows

variable {Row Key : Type} [LT Key] [DecidableLT Key] {key : Row → Key}

theorem put_put (irreflexive : ∀ key : Key, ¬ key < key) (row : Row) (rows : List Row) :
    put key row (put key row rows) = put key row rows := by
  induction rows with
  | nil => simp [put, irreflexive]
  | cons first rest ih =>
      simp only [put]
      split
      · simp [put, irreflexive]
      · split
        · rename_i notBefore behind
          simp [put, notBefore, behind, ih]
        · simp [put, irreflexive]

theorem put_subset (row : Row) (rows : List Row) : put key row rows ⊆ row :: rows := by
  induction rows with
  | nil => exact List.Subset.refl _
  | cons first rest ih =>
      intro other member
      simp only [put] at member
      split at member
      · exact member
      · split at member
        · rcases List.mem_cons.mp member with rfl | later
          · simp
          · rcases List.mem_cons.mp (ih later) with rfl | old
            · simp
            · simp [old]
        · rcases List.mem_cons.mp member with rfl | later
          · simp
          · simp [later]

/-- Of rows that are their own keys, putting one adds it and loses none. -/
@[simp]
theorem mem_put_id (row other : String) (rows : List String) :
    other ∈ put id row rows ↔ other = row ∨ other ∈ rows := by
  induction rows with
  | nil => simp [put]
  | cons first rest ih =>
      simp only [put, id_eq]
      split
      · simp
      · split
        · simp only [List.mem_cons, ih]
          exact or_left_comm
        · rename_i notBefore notBehind
          have same : row = first :=
            String.le_antisymm (String.not_lt.mp notBehind) (String.not_lt.mp notBefore)
          simp [same]

/-- A row that is not there yet is added, and nothing else happens. -/
theorem perm_put_id {row : String} {rows : List String} (absent : row ∉ rows) :
    (put id row rows).Perm (row :: rows) := by
  induction rows with
  | nil => rfl
  | cons first rest ih =>
      rw [List.mem_cons, not_or] at absent
      simp only [put, id_eq]
      split
      · rfl
      · split
        · exact ((ih absent.2).cons first).trans (.swap row first rest)
        · rename_i notBefore notBehind
          exact absurd (String.le_antisymm (String.not_lt.mp notBehind)
            (String.not_lt.mp notBefore)) absent.1

section Ordered

variable [IsStrictTotalOrder Key (fun left right => left < right)]

/-- A row that is put among ordered rows takes the place of the one with its key. -/
theorem mem_put {row other : Row} {rows : List Row}
    (ordered : rows.Pairwise fun earlier later => key earlier < key later) :
    other ∈ put key row rows ↔ other = row ∨ other ∈ rows ∧ key other ≠ key row := by
  have apart : ∀ {before behind : Row}, key before < key behind → key behind ≠ key before := by
    intro before behind less same
    rw [same] at less
    exact irrefl_of (· < ·) _ less
  induction rows with
  | nil => simp [put]
  | cons first rest ih =>
      rw [List.pairwise_cons] at ordered
      simp only [put]
      split
      · rename_i before
        -- The rows behind are all beyond the new one, so none of them has its key.
        have others : ∀ stored ∈ first :: rest, key stored ≠ key row := by
          intro stored member
          rcases List.mem_cons.mp member with rfl | later
          · exact apart before
          · exact apart (trans_of (· < ·) before (ordered.1 stored later))
        rw [List.mem_cons]
        constructor
        · rintro (new | old)
          · exact .inl new
          · exact .inr ⟨old, others other old⟩
        · rintro (new | ⟨old, _⟩)
          · exact .inl new
          · exact .inr old
      · split
        · rename_i behind
          have later := ih ordered.2
          have different := (apart behind).symm
          simp only [List.mem_cons, later]
          constructor
          · rintro (rfl | new | ⟨old, kept⟩)
            · exact .inr ⟨.inl rfl, different⟩
            · exact .inl new
            · exact .inr ⟨.inr old, kept⟩
          · rintro (new | ⟨rfl | old, kept⟩)
            · exact .inr (.inl new)
            · exact .inl rfl
            · exact .inr (.inr ⟨old, kept⟩)
        · rename_i notBefore notBehind
          have same : key row = key first :=
            Std.Trichotomous.trichotomous _ _ notBefore notBehind
          rw [List.mem_cons, List.mem_cons]
          constructor
          · rintro (new | old)
            · exact .inl new
            · exact .inr ⟨.inr old, same ▸ apart (ordered.1 other old)⟩
          · rintro (new | ⟨rfl | old, kept⟩)
            · exact .inl new
            · exact absurd same.symm kept
            · exact .inr old

theorem ordered_put (row : Row) {rows : List Row}
    (ordered : rows.Pairwise fun earlier later => key earlier < key later) :
    (put key row rows).Pairwise fun earlier later => key earlier < key later := by
  induction rows with
  | nil => simp [put]
  | cons first rest ih =>
      have tail := (List.pairwise_cons.mp ordered).2
      have least := (List.pairwise_cons.mp ordered).1
      simp only [put]
      split
      · rename_i before
        refine List.pairwise_cons.mpr ⟨?_, ordered⟩
        intro stored member
        rcases List.mem_cons.mp member with rfl | later
        · exact before
        · exact trans_of (· < ·) before (least stored later)
      · split
        · rename_i behind
          refine List.pairwise_cons.mpr ⟨?_, ih tail⟩
          intro stored member
          rcases (mem_put tail).mp member with rfl | ⟨old, _⟩
          · exact behind
          · exact least stored old
        · rename_i notBefore notBehind
          have same : key row = key first :=
            Std.Trichotomous.trichotomous _ _ notBefore notBehind
          refine List.pairwise_cons.mpr ⟨?_, tail⟩
          intro stored member
          rw [same]
          exact least stored member

end Ordered

end Rows

theorem PlaceholderKey.lt_irrefl (key : PlaceholderKey) : ¬ key < key := by
  rintro (earlier | ⟨_, smaller⟩)
  · exact String.lt_irrefl _ earlier
  · exact Nat.lt_irrefl _ smaller

end Enlistment
