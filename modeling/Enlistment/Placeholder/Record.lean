import Enlistment.ContentId

/-!
Placeholders: paths that were shown to a process before their content was there. A placeholder is a
file with the id of its content, or one of three kinds of folder.
-/

namespace Enlistment

inductive PathType where
  | file
  | partialFolder
  | expandedFolder
  | possibleTombstoneFolder
deriving DecidableEq, Repr

namespace PathType

def all : List PathType :=
  [file, partialFolder, expandedFolder, possibleTombstoneFolder]

def code : PathType → Int
  | file => 0
  | partialFolder => 1
  | expandedFolder => 2
  | possibleTombstoneFolder => 3

def ofCode? (code : Int) : Option PathType :=
  all.find? (fun pathType => pathType.code == code)

def isFolder (pathType : PathType) : Bool :=
  pathType != file

end PathType

inductive PlaceholderKind where
  | file (contentId : ContentId)
  | partialFolder
  | expandedFolder
  | possibleTombstoneFolder
deriving DecidableEq

inductive PlaceholderFault where
  | missingContentId
  | invalidContentId (error : ContentIdError)
deriving DecidableEq

def PlaceholderFault.message : PlaceholderFault → String
  | missingContentId => "file placeholder without a content id"
  | invalidContentId error => error.message

namespace PlaceholderKind

def pathType : PlaceholderKind → PathType
  | file _ => .file
  | partialFolder => .partialFolder
  | expandedFolder => .expandedFolder
  | possibleTombstoneFolder => .possibleTombstoneFolder

def isFolder (kind : PlaceholderKind) : Bool :=
  kind.pathType.isFolder

def contentId? : PlaceholderKind → Option ContentId
  | file contentId => some contentId
  | _ => none

def ofColumns : PathType → Option String → Except PlaceholderFault PlaceholderKind
  | .file, none => .error .missingContentId
  | .file, some sha =>
      match ContentId.parse sha with
      | .ok contentId => .ok (file contentId)
      | .error error => .error (.invalidContentId error)
  | .partialFolder, _ => .ok partialFolder
  | .expandedFolder, _ => .ok expandedFolder
  | .possibleTombstoneFolder, _ => .ok possibleTombstoneFolder

end PlaceholderKind

structure PlaceholderRecord where
  path : String
  kind : PlaceholderKind
deriving DecidableEq

namespace PlaceholderRecord

def isFolder (record : PlaceholderRecord) : Bool :=
  record.kind.isFolder

def sha? (record : PlaceholderRecord) : Option String :=
  record.kind.contentId?.map (·.text)

end PlaceholderRecord

end Enlistment
