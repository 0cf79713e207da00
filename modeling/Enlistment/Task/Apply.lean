import Enlistment.ModifiedPaths
import Enlistment.Placeholder.Store
import Enlistment.Task

/-!
What a task does to the stores: a few steps, each of which writes to one store once at most. A step
that fails ends the task, and leaves what the steps before it did.
-/

namespace Enlistment

structure Stores where
  database : Database
  memory : PlaceholderMemory
  paths : ModifiedPaths
deriving DecidableEq

namespace Stores

def placeholders (stores : Stores) : PlaceholderStore :=
  ⟨stores.database, stores.memory⟩

def modifiedPaths (stores : Stores) : ModifiedPathsStore :=
  ⟨stores.database, stores.paths⟩

def setPlaceholders (used : PlaceholderStore) (stores : Stores) : Stores :=
  { stores with database := used.database, memory := used.memory }

def setModifiedPaths (used : ModifiedPathsStore) (stores : Stores) : Stores :=
  { stores with database := used.database, paths := used.paths }

def load (database : Database) : Except DatabaseError Stores × Database :=
  match ModifiedPathsStore.load database with
  | (.ok loaded, after) => (.ok ⟨loaded.database, .empty, loaded.paths⟩, after)
  | (.error error, after) => (.error error, after)

end Stores

inductive StoreStep where
  | addModifiedPath (path : String) (isFolder : Bool)
  | removePlaceholder (path : String)
  | addPlaceholder (record : PlaceholderRecord)
deriving DecidableEq

inductive ApplyError where
  | database (error : DatabaseError)
  | modifiedPathRejected (path : String) (retryable : Bool)
deriving DecidableEq

def ApplyError.message? : ApplyError → Option String
  | database error => error.messageAfter "database error: "
  | modifiedPathRejected path retryable =>
      some ("modified path " ++ path ++ " was not recorded (retryable: " ++ toString retryable ++ ")")

/-- The steps of a change. A path that is removed stops being a placeholder before it is recorded;
a file that became full is recorded first. -/
def Change.steps : Change → List StoreStep
  | fileCreated path => [.addModifiedPath path false]
  | fileOverwritten path => [.addModifiedPath path false]
  | fileSuperseded path => [.addModifiedPath path false]
  | fileHardLinkCreated path => [.addModifiedPath path false]
  | fileConvertedToFull path => [.addModifiedPath path false, .removePlaceholder path]
  | fileDeleted path => [.removePlaceholder path, .addModifiedPath path false]
  | fileRenamed oldPath path =>
      [.removePlaceholder oldPath, .addModifiedPath oldPath false, .addModifiedPath path false]
  | folderCreated path => [.addModifiedPath path true]
  | folderDeleted path => [.removePlaceholder path, .addModifiedPath path true]
  | folderRenamed oldPath path =>
      [.removePlaceholder oldPath, .addModifiedPath oldPath true, .addModifiedPath path true]

def Task.steps : Task → List StoreStep
  | .change changed => changed.steps
  | .placeholderCreated record => [.addPlaceholder record]

namespace Stores

def applyStep : StoreStep → Stores → Except ApplyError Unit × Stores
  | .addModifiedPath path isFolder, stores =>
      let (outcome, used) := stores.modifiedPaths.add path isFolder
      if outcome.accepted then (.ok (), stores.setModifiedPaths used)
      else (.error (.modifiedPathRejected path outcome.retryable), stores.setModifiedPaths used)
  | .removePlaceholder path, stores =>
      let (answer, used) := stores.placeholders.remove path
      (answer.mapError .database, stores.setPlaceholders used)
  | .addPlaceholder record, stores =>
      let (answer, used) := stores.placeholders.add record
      (answer.mapError .database, stores.setPlaceholders used)

def applySteps : List StoreStep → Stores → Except ApplyError Unit × Stores
  | [], stores => (.ok (), stores)
  | step :: rest, stores =>
      match stores.applyStep step with
      | (.ok _, after) => applySteps rest after
      | (.error error, after) => (.error error, after)

def apply (task : Task) (stores : Stores) : Except ApplyError Unit × Stores :=
  stores.applySteps task.steps

end Stores

end Enlistment
