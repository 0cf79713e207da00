import Enlistment.Proofs.ContentId
import Enlistment.Proofs.Outcomes
import Enlistment.Proofs.Store.Statements
import Enlistment.Task.Log
import Mathlib.Data.Int.Order.Basic
import Mathlib.Order.RelClasses

/-!
Tasks as rows. A task is read back from the row that it was written to, the ids of the rows grow,
and no id is used twice; so the log of a store is a list of tasks, to which a task is appended at
the end and from which the first can be deleted alone.
-/

namespace Enlistment

@[simp]
theorem PathType.ofCode?_code (pathType : PathType) :
    ofCode? pathType.code = some pathType := by
  cases pathType <;> rfl

@[simp]
theorem PlaceholderKind.ofColumns_pathType (kind : PlaceholderKind) :
    ofColumns kind.pathType (kind.contentId?.map (·.text)) = .ok kind := by
  cases kind with
  | file id => simp [pathType, contentId?, ofColumns]
  | partialFolder => rfl
  | expandedFolder => rfl
  | possibleTombstoneFolder => rfl

theorem Task.ofColumns_operation (task : Task) :
    ofColumns task.operation task.path task.oldPath? (task.record?.map (·.kind.pathType))
      (task.record?.bind (·.sha?)) = .ok task := by
  cases task with
  | change changed => cases changed <;> rfl
  | placeholderCreated record =>
      simp [ofColumns, operation, record?, path, PlaceholderRecord.sha?]

namespace StoreValue

@[simp]
theorem readText_text (column value : String) : (text value).readText column = .ok value := by
  rfl

@[simp]
theorem readOptional_ofText? (column : String) (value? : Option String) :
    (ofText? value?).readOptional (readText column) = .ok value? := by
  cases value? <;> rfl

def IsText (value : StoreValue) : Prop :=
  value = .null ∨ ∃ contents, value = .text contents

theorem IsText.readText {value : StoreValue} (isText : value.IsText) (column : String) :
    ∃ contents, value.readText column = .ok contents := by
  rcases isText with rfl | ⟨contents, rfl⟩
  · exact ⟨"", rfl⟩
  · exact ⟨contents, rfl⟩

theorem IsText.readOptional {value : StoreValue} (isText : value.IsText) (column : String) :
    ∃ contents?, value.readOptional (StoreValue.readText column) = .ok contents? := by
  rcases isText with rfl | ⟨contents, rfl⟩
  · exact ⟨none, rfl⟩
  · exact ⟨some contents, rfl⟩

end StoreValue

structure TaskRow.HasTexts (row : TaskRow) : Prop where
  path : row.path.IsText
  oldPath : row.oldPath.IsText
  sha : row.sha.IsText

namespace LoggedTask

@[simp]
theorem readOperation_code (operation : Operation) :
    readOperation (.integer operation.code) = .ok operation := by
  cases operation <;> rfl

@[simp]
theorem readOptional_pathType (record? : Option PlaceholderRecord) :
    (StoreValue.ofInteger? (record?.map (·.kind.pathType.code))).readOptional readPathType =
      .ok (record?.map (·.kind.pathType)) := by
  cases record? with
  | none => rfl
  | some record => cases code : record.kind.pathType <;> simp [code] <;> rfl

@[simp]
theorem checked_ok {Read : Type} (read : Read) : checked (.ok read) = .ok read := by
  rfl

@[simp]
theorem trusted_ok {Read : Type} (read : Read) : trusted (.ok read) = .ok read := by
  rfl

/-- A row that was written for a task is read as that task. -/
@[simp]
theorem ofRow_toRow (logged : LoggedTask) : ofRow logged.toRow = .ok logged := by
  have columns := logged.task.ofColumns_operation
  simp [ofRow, toRow, bind, Except.bind, pure, Except.pure, columns]

/-- Where the texts are texts, a row that makes no sense is an error and ends nothing. -/
theorem exists_error_of_texts {row : TaskRow} (texts : row.HasTexts) {failure : Failure DatabaseError}
    (failed : ofRow row = .error failure) : ∃ cause, failure = .error cause := by
  obtain ⟨path, pathRead⟩ := texts.path.readText "virtualPath"
  obtain ⟨oldPath?, oldPathRead⟩ := texts.oldPath.readOptional "oldVirtualPath"
  obtain ⟨sha?, shaRead⟩ := texts.sha.readOptional "sha"
  cases operationRead : readOperation row.operation with
  | error fault =>
      simp only [ofRow, operationRead, bind, Except.bind, checked, Except.mapError] at failed
      exact ⟨_, (Except.error.inj failed).symm⟩
  | ok operation =>
      cases pathTypeRead : row.pathType.readOptional readPathType with
      | error fault =>
          simp only [ofRow, operationRead, pathRead, oldPathRead, pathTypeRead, trusted_ok, bind,
            Except.bind, checked, Except.mapError] at failed
          exact ⟨_, (Except.error.inj failed).symm⟩
      | ok pathType? =>
          simp only [ofRow, operationRead, pathRead, oldPathRead, pathTypeRead, shaRead, checked_ok,
            trusted_ok, bind, Except.bind] at failed
          split at failed
          · exact absurd failed nofun
          · exact ⟨_, (Except.error.inj failed).symm⟩

theorem id_of_ofRow {row : TaskRow} {logged : LoggedTask} (read : ofRow row = .ok logged) :
    logged.id = row.id := by
  obtain ⟨operation, _, read⟩ := exists_of_bind_eq_ok read
  obtain ⟨path, _, read⟩ := exists_of_bind_eq_ok read
  obtain ⟨oldPath, _, read⟩ := exists_of_bind_eq_ok read
  obtain ⟨pathType, _, read⟩ := exists_of_bind_eq_ok read
  obtain ⟨sha, _, read⟩ := exists_of_bind_eq_ok read
  split at read
  · exact (congrArg LoggedTask.id (Except.ok.inj read)).symm
  · exact absurd read nofun

end LoggedTask

namespace Tables

/-- The ids of the tasks grow, and none is larger than the last one that was given. -/
structure Numbered (tables : Tables) : Prop where
  increasing : tables.tasks.Pairwise fun earlier later => earlier.id < later.id
  bounded : ∀ row ∈ tables.tasks, row.id ≤ tables.lastTaskId

theorem numbered_empty : empty.Numbered := by
  exact ⟨List.Pairwise.nil, by simp [empty]⟩

theorem Numbered.appendTask {tables appended : Tables} {row : Int → TaskRow} {id : Int}
    (numbered : tables.Numbered) (identified : ∀ id, (row id).id = id)
    (done : tables.appendTask row = .ok (id, appended)) : appended.Numbered := by
  unfold Tables.appendTask at done
  split at done
  · obtain ⟨rfl, rfl⟩ := Prod.mk.inj (Except.ok.inj done)
    constructor
    · refine List.pairwise_append.mpr ⟨numbered.increasing, by simp, ?_⟩
      intro earlier member later last
      have bound := numbered.bounded earlier member
      rw [List.mem_singleton.mp last, identified]
      omega
    · intro other member
      rcases List.mem_append.mp member with before | last
      · have bound := numbered.bounded other before
        simp only
        omega
      · have latest : other.id = tables.lastTaskId + 1 := by
          rw [List.mem_singleton.mp last, identified]
        exact Int.le_of_eq latest
  · exact absurd done (by simp)

theorem Numbered.deleteTask {tables : Tables} (numbered : tables.Numbered) (id : Int) :
    (tables.deleteTask id).Numbered := by
  constructor
  · exact numbered.increasing.sublist List.filter_sublist
  · exact fun row member => numbered.bounded row (List.mem_filter.mp member).1

def Logs (tables : Tables) (logged : List LoggedTask) : Prop :=
  tables.tasks.map LoggedTask.ofRow = logged.map .ok

def loggedTasks (tables : Tables) : List Task :=
  tables.tasks.filterMap fun row => (LoggedTask.ofRow row).toOption.map (·.task)

theorem Logs.loggedTasks_eq {tables : Tables} {logged : List LoggedTask}
    (logs : tables.Logs logged) : tables.loggedTasks = logged.map (·.task) := by
  have viaRows : tables.loggedTasks =
      (tables.tasks.map LoggedTask.ofRow).filterMap fun read => read.toOption.map (·.task) := by
    rw [List.filterMap_map]
    rfl
  rw [viaRows, logs, List.filterMap_map, ← List.filterMap_eq_map]
  rfl

theorem Logs.tasks_eq_nil {tables : Tables} (logs : tables.Logs []) : tables.tasks = [] := by
  exact List.map_eq_nil_iff.mp logs

theorem appendTask_of_room {tables : Tables} (room : tables.lastTaskId < lastPossibleTaskId)
    (row : Int → TaskRow) :
    tables.appendTask row = .ok (tables.lastTaskId + 1,
      { tables with
        tasks := tables.tasks ++ [row (tables.lastTaskId + 1)]
        lastTaskId := tables.lastTaskId + 1 }) := by
  exact if_pos room

def withTask (task : Task) (tables : Tables) : Tables :=
  { tables with
    tasks := tables.tasks ++ [LoggedTask.toRow ⟨tables.lastTaskId + 1, task⟩]
    lastTaskId := tables.lastTaskId + 1 }

theorem Logs.append {tables : Tables} {before : List LoggedTask} (logs : tables.Logs before)
    (logged : LoggedTask) (lastTaskId : Int) :
    Logs { tables with tasks := tables.tasks ++ [logged.toRow], lastTaskId }
      (before ++ [logged]) := by
  unfold Logs at logs ⊢
  simp [logs]

theorem Logs.map_id {tables : Tables} {logged : List LoggedTask} (logs : tables.Logs logged) :
    logged.map (·.id) = tables.tasks.map (·.id) := by
  have ids : ∀ {rows : List TaskRow} {tasks : List LoggedTask},
      rows.map LoggedTask.ofRow = tasks.map .ok → tasks.map (·.id) = rows.map (·.id) := by
    intro rows
    induction rows with
    | nil =>
        intro tasks read
        rw [List.map_eq_nil_iff.mp read.symm]
        rfl
    | cons row rest ih =>
        intro tasks read
        obtain ⟨task, others, rfl, first, later⟩ := List.map_eq_cons_iff.mp read.symm
        rw [List.map_cons, List.map_cons, ih later.symm, LoggedTask.id_of_ofRow first.symm]
  exact ids logs

theorem Logs.increasing {tables : Tables} {logged : List LoggedTask} (logs : tables.Logs logged)
    (numbered : tables.Numbered) : logged.Pairwise (·.id < ·.id) := by
  have rows := List.pairwise_map.mpr numbered.increasing
  rw [← logs.map_id] at rows
  exact List.pairwise_map.mp rows

theorem Logs.bounded {tables : Tables} {logged : List LoggedTask} (logs : tables.Logs logged)
    (numbered : tables.Numbered) {task : LoggedTask} (member : task ∈ logged) :
    task.id ≤ tables.lastTaskId := by
  have listed : task.id ∈ logged.map (·.id) := List.mem_map_of_mem member
  rw [logs.map_id] at listed
  obtain ⟨row, stored, same⟩ := List.mem_map.mp listed
  exact same ▸ numbered.bounded row stored

theorem Logs.deleteTask {tables : Tables} {logged : List LoggedTask} (logs : tables.Logs logged)
    (id : Int) : (tables.deleteTask id).Logs (logged.filter (·.id != id)) := by
  have kept : ∀ {rows : List TaskRow} {tasks : List LoggedTask},
      rows.map LoggedTask.ofRow = tasks.map .ok →
      (rows.filter (·.id != id)).map LoggedTask.ofRow =
        (tasks.filter (·.id != id)).map .ok := by
    intro rows
    induction rows with
    | nil =>
        intro tasks read
        rw [List.map_eq_nil_iff.mp read.symm]
        rfl
    | cons row rest ih =>
        intro tasks read
        obtain ⟨task, others, rfl, first, later⟩ := List.map_eq_cons_iff.mp read.symm
        rw [List.filter_cons, List.filter_cons, LoggedTask.id_of_ofRow first.symm]
        split
        · rw [List.map_cons, List.map_cons, ih later.symm, first]
        · exact ih later.symm
  exact kept logs

theorem Logs.deleteTask_first {tables : Tables} {first : LoggedTask} {rest : List LoggedTask}
    (numbered : tables.Numbered) (logs : tables.Logs (first :: rest)) :
    (tables.deleteTask first.id).Logs rest := by
  have above := (List.pairwise_cons.mp (logs.increasing numbered)).1
  have kept : (first :: rest).filter (·.id != first.id) = rest := by
    rw [List.filter_cons_of_neg (by simp), List.filter_eq_self]
    intro other member
    have larger := above other member
    rw [bne_iff_ne]
    omega
  exact kept ▸ logs.deleteTask first.id

end Tables

namespace TaskLog

variable {database : Database}

theorem append_of_room (isOpen : database.isShutDown = false)
    (room : database.tables.lastTaskId < Tables.lastPossibleTaskId) (task : Task) :
    append task database =
      (.ok (database.tables.lastTaskId + 1),
        ⟨{ database.tables with
            tasks := database.tables.tasks ++
              [LoggedTask.toRow ⟨database.tables.lastTaskId + 1, task⟩]
            lastTaskId := database.tables.lastTaskId + 1 },
          database.pool.used⟩) := by
  rw [append, Database.run_of_open isOpen, Tables.appendTask_of_room room]
  rfl

theorem append_of_full (isOpen : database.isShutDown = false)
    (full : ¬ database.tables.lastTaskId < Tables.lastPossibleTaskId) (task : Task) :
    append task database =
      (.error (.statement .full), ⟨database.tables, database.pool.used⟩) := by
  rw [append, Database.run_of_open isOpen, Tables.appendTask, if_neg full]
  rfl

/-- A task is logged under the next id, or refused because the store was shut down or has no id left;
then the tables are as they were. -/
theorem append_cases (task : Task) (database : Database) :
    (database.isShutDown = false ∧ database.tables.lastTaskId < Tables.lastPossibleTaskId ∧
      append task database =
        (.ok (database.tables.lastTaskId + 1),
          ⟨database.tables.withTask task, database.pool.used⟩)) ∨
    ∃ error after, append task database = (.error error, after) ∧
      after.tables = database.tables ∧ after.isShutDown = database.isShutDown ∧
      (error = .shutDown ∧ database.isShutDown = true ∨
        error = .statement .full ∧
          ¬ database.tables.lastTaskId < Tables.lastPossibleTaskId) := by
  cases state : database.isShutDown with
  | true =>
      refine .inr ⟨.shutDown, database, ?_, rfl, state, .inl ⟨rfl, rfl⟩⟩
      rw [append, Database.run_of_shutDown state]
  | false =>
      by_cases room : database.tables.lastTaskId < Tables.lastPossibleTaskId
      · exact .inl ⟨rfl, room, append_of_room state room task⟩
      · exact .inr ⟨_, _, append_of_full state room task, rfl, (Pool.isShutDown_used _).trans state,
          .inr ⟨rfl, room⟩⟩

/-- A task that is logged gets the next id. -/
theorem eq_of_append {task : Task} {after : Database} {id : Int}
    (appended : append task database = (.ok id, after)) :
    id = database.tables.lastTaskId + 1 ∧ after.tables = database.tables.withTask task := by
  rcases append_cases task database with ⟨_, _, logged⟩ | ⟨error, kept, refused, _⟩
  · obtain ⟨answer, rfl⟩ := Prod.mk.inj (appended.symm.trans logged)
    exact ⟨Except.ok.inj answer, rfl⟩
  · exact absurd (congrArg Prod.fst (appended.symm.trans refused)) nofun

theorem tables_of_refusal {task : Task} {after : Database} {error : DatabaseError}
    (refused : append task database = (.error error, after)) :
    after.tables = database.tables := by
  rcases append_cases task database with ⟨_, _, logged⟩ | ⟨_, kept, again, same, _⟩
  · exact absurd (congrArg Prod.fst (refused.symm.trans logged)) nofun
  · obtain ⟨_, rfl⟩ := Prod.mk.inj (refused.symm.trans again)
    exact same

theorem delete_of_open (isOpen : database.isShutDown = false) (id : Int) :
    delete id database = (.ok (), ⟨database.tables.deleteTask id, database.pool.used⟩) := by
  rw [delete, Database.update_of_open isOpen]

theorem load_of_open (isOpen : database.isShutDown = false) :
    load database =
      (database.tables.tasks.mapM LoggedTask.ofRow, ⟨database.tables, database.pool.used⟩) := by
  rw [load, Database.query, Database.run_of_open isOpen]
  rfl

theorem load_of_logs (isOpen : database.isShutDown = false) {logged : List LoggedTask}
    (logs : database.tables.Logs logged) :
    load database = (.ok logged, ⟨database.tables, database.pool.used⟩) := by
  rw [load_of_open isOpen, mapM_eq_ok_iff.mpr logs]

theorem logs_of_load (isOpen : database.isShutDown = false) {logged : List LoggedTask}
    (read : (load database).1 = .ok logged) : database.tables.Logs logged := by
  rw [load_of_open isOpen] at read
  exact mapM_eq_ok_iff.mp read

end TaskLog

end Enlistment
