import Enlistment.Path.Entry
import Enlistment.Placeholder.Record
import Enlistment.Task.Operation

/-!
Work that follows from what happened in the working directory: a change of a file or folder, or a
placeholder that was made. A task can be written to columns and read back.
-/

namespace Enlistment

inductive Change where
  | fileCreated (path : String)
  | fileDeleted (path : String)
  | fileOverwritten (path : String)
  | fileConvertedToFull (path : String)
  | fileRenamed (oldPath path : String)
  | fileHardLinkCreated (path : String)
  | fileSuperseded (path : String)
  | folderCreated (path : String)
  | folderDeleted (path : String)
  | folderRenamed (oldPath path : String)
deriving DecidableEq

inductive Task where
  | change (changed : Change)
  | placeholderCreated (record : PlaceholderRecord)
deriving DecidableEq

namespace Change

def operation : Change → Operation
  | fileCreated _ => .fileCreated
  | fileDeleted _ => .fileDeleted
  | fileOverwritten _ => .fileOverwritten
  | fileConvertedToFull _ => .fileConvertedToFull
  | fileRenamed _ _ => .fileRenamed
  | fileHardLinkCreated _ => .fileHardLinkCreated
  | fileSuperseded _ => .fileSuperseded
  | folderCreated _ => .folderCreated
  | folderDeleted _ => .folderDeleted
  | folderRenamed _ _ => .folderRenamed

def path : Change → String
  | fileCreated path => path
  | fileDeleted path => path
  | fileOverwritten path => path
  | fileConvertedToFull path => path
  | fileRenamed _ path => path
  | fileHardLinkCreated path => path
  | fileSuperseded path => path
  | folderCreated path => path
  | folderDeleted path => path
  | folderRenamed _ path => path

def oldPath? : Change → Option String
  | fileRenamed oldPath _ => some oldPath
  | folderRenamed oldPath _ => some oldPath
  | _ => none

def isFolder : Change → Bool
  | folderCreated _ => true
  | folderDeleted _ => true
  | folderRenamed _ _ => true
  | _ => false

def paths (change : Change) : List String :=
  change.oldPath?.toList ++ [change.path]

end Change

inductive TaskFault where
  | missingOldPath (operation : Operation)
  | missingPathType
  | placeholder (fault : PlaceholderFault)
deriving DecidableEq

def TaskFault.message : TaskFault → String
  | missingOldPath operation => operation.name ++ " without an old path"
  | missingPathType => "placeholder task without a path type"
  | placeholder fault => fault.message

namespace Task

def operation : Task → Operation
  | .change changed => changed.operation
  | .placeholderCreated _ => .placeholderCreated

def path : Task → String
  | .change changed => changed.path
  | .placeholderCreated record => record.path

def oldPath? : Task → Option String
  | .change changed => changed.oldPath?
  | .placeholderCreated _ => none

def record? : Task → Option PlaceholderRecord
  | .change _ => none
  | .placeholderCreated record => some record

def touchesDotGit (task : Task) : Bool :=
  Path.isInsideDotGit task.path || task.oldPath?.any Path.isInsideDotGit

def ofColumns (operation : Operation) (path : String) (oldPath : Option String)
    (pathType : Option PathType) (sha : Option String) : Except TaskFault Task :=
  match operation with
  | .fileCreated => .ok (.change (.fileCreated path))
  | .fileDeleted => .ok (.change (.fileDeleted path))
  | .fileOverwritten => .ok (.change (.fileOverwritten path))
  | .fileConvertedToFull => .ok (.change (.fileConvertedToFull path))
  | .fileRenamed =>
      match oldPath with
      | some oldPath => .ok (.change (.fileRenamed oldPath path))
      | none => .error (.missingOldPath operation)
  | .fileHardLinkCreated => .ok (.change (.fileHardLinkCreated path))
  | .fileSuperseded => .ok (.change (.fileSuperseded path))
  | .folderCreated => .ok (.change (.folderCreated path))
  | .folderDeleted => .ok (.change (.folderDeleted path))
  | .folderRenamed =>
      match oldPath with
      | some oldPath => .ok (.change (.folderRenamed oldPath path))
      | none => .error (.missingOldPath operation)
  | .placeholderCreated =>
      match pathType with
      | none => .error .missingPathType
      | some pathType =>
          match PlaceholderKind.ofColumns pathType sha with
          | .ok kind => .ok (.placeholderCreated ⟨path, kind⟩)
          | .error fault => .error (.placeholder fault)

end Task

end Enlistment
