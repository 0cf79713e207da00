import Enlistment.Store.Database
import Enlistment.Task

/-!
The durable log of tasks. A task is appended before it is queued and deleted once it was applied, so
what is left in the log when a mount ends is done by the next one, in the order of the ids. Numbers in
the log are checked when they are read. Texts are taken for granted: one that cannot be read ends the
process.
-/

namespace Enlistment

structure LoggedTask where
  id : Int
  task : Task
deriving DecidableEq

namespace LoggedTask

def toRow (logged : LoggedTask) : TaskRow where
  id := logged.id
  operation := .integer logged.task.operation.code
  path := .text logged.task.path
  oldPath := .ofText? logged.task.oldPath?
  pathType := .ofInteger? (logged.task.record?.map (·.kind.pathType.code))
  sha := .ofText? (logged.task.record?.bind (·.sha?))

def readOperation (value : StoreValue) : Except StatementFault Operation := do
  let code ← value.readInteger "operation"
  match Operation.ofCode? code with
  | some operation => pure operation
  | none => throw (.unknownOperation code)

def readPathType (value : StoreValue) : Except StatementFault PathType := do
  let code ← value.readInteger "pathType"
  match PathType.ofCode? code with
  | some pathType => pure pathType
  | none => throw (.unknownPathType code)

def checked {Read : Type} (read : Except StatementFault Read) : Except (Failure DatabaseError) Read :=
  read.mapError fun fault => .error (.statement fault)

def trusted {Read : Type} (read : Except StatementFault Read) : Except (Failure DatabaseError) Read :=
  read.mapError .abort

def ofRow (row : TaskRow) : Except (Failure DatabaseError) LoggedTask := do
  let operation ← checked (readOperation row.operation)
  let path ← trusted (row.path.readText "virtualPath")
  let oldPath ← trusted (row.oldPath.readOptional (StoreValue.readText "oldVirtualPath"))
  let pathType ← checked (row.pathType.readOptional readPathType)
  let sha ← trusted (row.sha.readOptional (StoreValue.readText "sha"))
  match Task.ofColumns operation path oldPath pathType sha with
  | .ok task => pure ⟨row.id, task⟩
  | .error fault =>
      let reason := "task " ++ toString row.id ++ ": " ++ fault.message
      throw (.error (.corruptRow "BackgroundTasks" reason))

end LoggedTask

namespace TaskLog

def append (task : Task) (database : Database) : Except DatabaseError Int × Database :=
  database.run fun tables =>
    (tables.appendTask fun id => LoggedTask.toRow ⟨id, task⟩).mapError DatabaseError.statement

def delete (id : Int) (database : Database) : Except DatabaseError Unit × Database :=
  database.update (Tables.deleteTask id)

def load (database : Database) : Except (Failure DatabaseError) (List LoggedTask) × Database :=
  match database.query fun tables => .ok tables.tasks with
  | (.ok rows, read) => (rows.mapM LoggedTask.ofRow, read)
  | (.error error, kept) => (.error (.error error), kept)

def count (database : Database) : Except DatabaseError Nat × Database :=
  database.query fun tables => .ok tables.tasks.length

end TaskLog

end Enlistment
