import Enlistment.Task

/-!
Events of the working directory and the tasks that follow from them. What happens inside `.git` is
no concern of the mount; a rename across its border is a deletion or a creation on the outside.
-/

namespace Enlistment

inductive Event where
  | changed (change : Change)
  | placeholderCreated (record : PlaceholderRecord) (process : String)
deriving DecidableEq

namespace Change

def renameOutside (isFolder : Bool) (oldPath path : String) : Option Change :=
  match Path.isInsideDotGit oldPath, Path.isInsideDotGit path with
  | false, false => some (if isFolder then .folderRenamed oldPath path else .fileRenamed oldPath path)
  | false, true => some (if isFolder then .folderDeleted oldPath else .fileDeleted oldPath)
  | true, false => some (if isFolder then .folderCreated path else .fileCreated path)
  | true, true => none

/-- A rename is first seen from outside; then every change is looked at once more. -/
def outside (change : Change) : Option Change :=
  let seen :=
    match change with
    | fileRenamed oldPath path => renameOutside false oldPath path
    | folderRenamed oldPath path => renameOutside true oldPath path
    | other => some other
  seen.filter fun change => !(Task.change change).touchesDotGit

end Change

namespace Event

def task? : Event → Option Task
  | changed change => change.outside.map Task.change
  | placeholderCreated record _ =>
      if Path.isInsideDotGit record.path then none else some (.placeholderCreated record)

def process? : Event → Option String
  | changed _ => none
  | placeholderCreated _ process => some process

end Event

end Enlistment
