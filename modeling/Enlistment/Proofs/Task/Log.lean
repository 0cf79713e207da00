import Enlistment.Proofs.Task.Rows

/-!
The log over all its runs. Tasks are appended and deleted and the tables are opened anew, in any
order; what is read is then what was appended and not deleted since, in that order, and every id
that was ever given is larger than the ones before.
-/

namespace Enlistment

inductive LogAction where
  | append (task : Task)
  | delete (id : Int)
  | reopen (sizes : PoolSizes)
deriving DecidableEq

def LogAction.task? : LogAction → Option Task
  | append task => some task
  | _ => none

namespace TaskLog

def perform (database : Database) : LogAction → Database
  | .append task => (append task database).2
  | .delete id => (delete id database).2
  | .reopen sizes =>
      match Database.openOn sizes database.tables with
      | .ok again => again
      | .error _ => database

def performAll (actions : List LogAction) (database : Database) : Database :=
  actions.foldl perform database

def appendedBy (database : Database) : LogAction → List LoggedTask
  | .append task =>
      match (append task database).1 with
      | .ok id => [⟨id, task⟩]
      | .error _ => []
  | _ => []

def appended : List LogAction → Database → List LoggedTask
  | [], _ => []
  | action :: rest, database =>
      appendedBy database action ++ appended rest (perform database action)

def remaining : List LogAction → Database → List LoggedTask
  | [], _ => []
  | action :: rest, database =>
      (appendedBy database action).filter (.delete ·.id ∉ rest) ++
        remaining rest (perform database action)

structure Holds (database : Database) (logged : List LoggedTask) : Prop where
  isOpen : database.isShutDown = false
  known : database.tables.version ≤ Enlistment.schemaVersion
  logs : database.tables.Logs logged

namespace Holds

variable {database : Database} {logged : List LoggedTask}

theorem load (holds : Holds database logged) : (TaskLog.load database).1 = .ok logged := by
  rw [load_of_logs holds.isOpen holds.logs]

theorem reopened (holds : Holds database logged) (sizes : PoolSizes) :
    ∃ again, Database.openOn sizes database.tables = .ok again ∧ Holds again logged ∧
      again.tables.lastTaskId = database.tables.lastTaskId := by
  have opened := Database.openOn_of_known sizes holds.known
  exact ⟨_, opened, ⟨Database.isOpen_of_openOn opened, Int.le_refl _, holds.logs⟩, rfl⟩

/-- A task gets the next id, if there is one left. -/
theorem append_cases (holds : Holds database logged) (task : Task) :
    (database.tables.lastTaskId < Tables.lastPossibleTaskId ∧
      appendedBy database (.append task) = [⟨database.tables.lastTaskId + 1, task⟩] ∧
      (perform database (.append task)).tables = database.tables.withTask task) ∨
    (¬ database.tables.lastTaskId < Tables.lastPossibleTaskId ∧
      appendedBy database (.append task) = [] ∧
      (perform database (.append task)).tables = database.tables) := by
  rcases TaskLog.append_cases task database with
    ⟨_, room, done⟩ | ⟨error, after, refused, same, _, ⟨_, closed⟩ | ⟨_, full⟩⟩
  · refine .inl ⟨room, ?_, ?_⟩
    · rw [appendedBy, done]
    · rw [perform, done]
  · exact absurd (holds.isOpen.symm.trans closed) nofun
  · refine .inr ⟨full, ?_, ?_⟩
    · rw [appendedBy, refused]
    · rw [perform, refused]
      exact same

theorem perform (holds : Holds database logged) (action : LogAction) :
    Holds (TaskLog.perform database action)
      (logged.filter (action ≠ .delete ·.id) ++ appendedBy database action) := by
  cases action with
  | append task =>
      have stillOpen : (TaskLog.perform database (.append task)).isShutDown = false :=
        Database.isOpen_run holds.isOpen _
      have all : logged.filter (LogAction.append task ≠ .delete ·.id) = logged :=
        List.filter_eq_self.mpr (by simp)
      rw [all]
      rcases holds.append_cases task with ⟨_, given, rows⟩ | ⟨_, none, rows⟩
      · refine ⟨stillOpen, rows ▸ holds.known, ?_⟩
        rw [given, rows]
        exact holds.logs.append ⟨_, task⟩ _
      · refine ⟨stillOpen, rows ▸ holds.known, ?_⟩
        rw [none, rows, List.append_nil]
        exact holds.logs
  | delete id =>
      have others : logged.filter (LogAction.delete id ≠ .delete ·.id) =
          logged.filter (·.id != id) := by
        refine List.filter_congr fun entry _ => ?_
        rw [Bool.eq_iff_iff, decide_eq_true_eq, bne_iff_ne, Ne, LogAction.delete.injEq, ne_comm]
      have none : appendedBy database (.delete id) = [] := rfl
      rw [others, none, List.append_nil, TaskLog.perform, delete_of_open holds.isOpen]
      exact ⟨(Pool.isShutDown_used _).trans holds.isOpen, holds.known, holds.logs.deleteTask id⟩
  | reopen sizes =>
      obtain ⟨again, opened, still, _⟩ := holds.reopened sizes
      have all : logged.filter (LogAction.reopen sizes ≠ .delete ·.id) = logged :=
        List.filter_eq_self.mpr (by simp)
      simp only [TaskLog.perform, opened, all, appendedBy, List.append_nil]
      exact still

theorem performAll (holds : Holds database logged) (actions : List LogAction) :
    Holds (TaskLog.performAll actions database)
      (logged.filter (.delete ·.id ∉ actions) ++ remaining actions database) := by
  induction actions generalizing database logged with
  | nil =>
      have all : logged.filter (LogAction.delete ·.id ∉ []) = logged :=
        List.filter_eq_self.mpr (by simp)
      rw [all, remaining, List.append_nil]
      exact holds
  | cons action rest ih =>
      have later := ih (holds.perform action)
      have kept : (logged.filter (action ≠ .delete ·.id)).filter (.delete ·.id ∉ rest) =
          logged.filter (.delete ·.id ∉ action :: rest) := by
        rw [List.filter_filter]
        refine List.filter_congr fun entry _ => ?_
        rw [Bool.eq_iff_iff, Bool.and_eq_true, decide_eq_true_eq, decide_eq_true_eq,
          decide_eq_true_eq, List.mem_cons, not_or, ← Ne, ne_comm, and_comm]
      rw [List.filter_append, kept, List.append_assoc] at later
      exact later

end Holds

section Ids

variable {database : Database} {logged : List LoggedTask}

/-- An action gives the ids that are next, and goes on behind them. -/
theorem lastTaskId_perform (holds : Holds database logged) (action : LogAction) :
    (perform database action).tables.lastTaskId =
        database.tables.lastTaskId + (appendedBy database action).length ∧
      (appendedBy database action = [] ∨ ∃ task,
        appendedBy database action = [⟨database.tables.lastTaskId + 1, task⟩]) := by
  cases action with
  | append task =>
      rcases holds.append_cases task with ⟨_, given, rows⟩ | ⟨_, none, rows⟩
      · rw [given, rows]
        exact ⟨rfl, .inr ⟨task, rfl⟩⟩
      · rw [none, rows]
        exact ⟨(Int.add_zero _).symm, .inl rfl⟩
  | delete id =>
      rw [perform, delete_of_open holds.isOpen]
      exact ⟨(Int.add_zero _).symm, .inl rfl⟩
  | reopen sizes =>
      obtain ⟨again, opened, _, last⟩ := holds.reopened sizes
      simp only [perform, opened, last]
      exact ⟨(Int.add_zero _).symm, .inl rfl⟩

theorem lt_of_mem_appended (holds : Holds database logged) {actions : List LogAction}
    {entry : LoggedTask} (member : entry ∈ appended actions database) :
    database.tables.lastTaskId < entry.id := by
  induction actions generalizing database logged with
  | nil => contradiction
  | cons action rest ih =>
      obtain ⟨last, none | ⟨task, given⟩⟩ := lastTaskId_perform holds action
      all_goals rcases List.mem_append.mp member with now | later
      · rw [none] at now
        contradiction
      · have above := ih (holds.perform action) later
        rw [last] at above
        omega
      · rw [given, List.mem_singleton] at now
        rw [now]
        exact Int.lt_succ _
      · have above := ih (holds.perform action) later
        rw [last] at above
        omega

theorem appended_increasing (holds : Holds database logged) (actions : List LogAction) :
    (appended actions database).Pairwise (·.id < ·.id) := by
  induction actions generalizing database logged with
  | nil => exact .nil
  | cons action rest ih =>
      have later := ih (holds.perform action)
      obtain ⟨last, none | ⟨task, given⟩⟩ := lastTaskId_perform holds action
      · rw [appended, none]
        exact later
      · rw [appended, given]
        refine List.pairwise_cons.mpr ⟨?_, later⟩
        intro entry member
        have above := lt_of_mem_appended (holds.perform action) member
        rw [last, given] at above
        exact above

/-- Every task is appended, as long as there are ids for them. -/
theorem map_task_appended (holds : Holds database logged) (actions : List LogAction) :
    (appended actions database).map (·.task) =
      (actions.filterMap LogAction.task?).take
        (Tables.lastPossibleTaskId - database.tables.lastTaskId).toNat := by
  induction actions generalizing database logged with
  | nil => simp [appended]
  | cons action rest ih =>
      have later := ih (holds.perform action)
      rw [appended, List.map_append, later]
      cases action with
      | append task =>
          rcases holds.append_cases task with ⟨room, given, rows⟩ | ⟨full, none, rows⟩
          · have fewer : (Tables.lastPossibleTaskId - database.tables.lastTaskId).toNat =
                (Tables.lastPossibleTaskId - (database.tables.lastTaskId + 1)).toNat + 1 := by
              omega
            rw [given, rows, fewer]
            rfl
          · have nothing : (Tables.lastPossibleTaskId - database.tables.lastTaskId).toNat = 0 := by
              omega
            rw [none, rows, nothing]
            simp
      | delete id =>
          rw [perform, delete_of_open holds.isOpen]
          rfl
      | reopen sizes =>
          obtain ⟨again, opened, _, last⟩ := holds.reopened sizes
          simp only [perform, opened, last]
          rfl

end Ids

theorem remaining_sublist (actions : List LogAction) (database : Database) :
    (remaining actions database).Sublist (appended actions database) := by
  induction actions generalizing database with
  | nil => exact List.Sublist.refl _
  | cons action rest ih => exact List.filter_sublist.append (ih _)

/-- Whatever is appended to the log of a new store and deleted from it, and however often it is
opened anew: every task is logged as long as there are ids, every id is larger than all that were
given before, and what is read, now or on opening the store again, is every task that was appended
and not deleted later, as it was appended and in that order. -/
theorem gives_back_what_was_appended (sizes : PoolSizes) :
    ∃ fresh, Database.openOn sizes .empty = .ok fresh ∧ ∀ actions,
      (appended actions fresh).map (·.task) =
        (actions.filterMap LogAction.task?).take Tables.lastPossibleTaskId.toNat ∧
      (appended actions fresh).Pairwise (·.id < ·.id) ∧
      (remaining actions fresh).Sublist (appended actions fresh) ∧
      (load (performAll actions fresh)).1 = .ok (remaining actions fresh) ∧
      ∀ sizes, ∃ again, Database.openOn sizes (performAll actions fresh).tables = .ok again ∧
        (load again).1 = .ok (remaining actions fresh) := by
  have opened := Database.openOn_of_known sizes (show Tables.empty.version ≤ schemaVersion by decide)
  have started : Holds ⟨{ Tables.empty with version := schemaVersion }, .start sizes⟩ [] :=
    ⟨Database.isOpen_of_openOn opened, Int.le_refl _, rfl⟩
  refine ⟨_, opened, fun actions => ?_⟩
  have final := started.performAll actions
  rw [List.filter_nil, List.nil_append] at final
  refine ⟨map_task_appended started actions, appended_increasing started actions,
    remaining_sublist actions _, final.load, fun sizes => ?_⟩
  obtain ⟨again, reopening, still, _⟩ := final.reopened sizes
  exact ⟨again, reopening, still.load⟩

end TaskLog

end Enlistment
