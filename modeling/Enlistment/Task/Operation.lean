/-!
The operations that are queued and logged, with their numbers in the store and their names.
-/

namespace Enlistment

inductive Operation where
  | fileCreated
  | fileDeleted
  | fileOverwritten
  | fileConvertedToFull
  | fileRenamed
  | fileHardLinkCreated
  | fileSuperseded
  | folderCreated
  | folderDeleted
  | folderRenamed
  | placeholderCreated
deriving DecidableEq, Repr

namespace Operation

def all : List Operation :=
  [fileCreated, fileDeleted, fileOverwritten, fileConvertedToFull, fileRenamed,
    fileHardLinkCreated, fileSuperseded, folderCreated, folderDeleted, folderRenamed,
    placeholderCreated]

def code : Operation → Int
  | fileCreated => 1
  | fileDeleted => 2
  | fileOverwritten => 3
  | fileConvertedToFull => 4
  | fileRenamed => 5
  | fileHardLinkCreated => 6
  | fileSuperseded => 7
  | folderCreated => 8
  | folderDeleted => 9
  | folderRenamed => 10
  | placeholderCreated => 11

def name : Operation → String
  | fileCreated => "file_created"
  | fileDeleted => "file_deleted"
  | fileOverwritten => "file_overwritten"
  | fileConvertedToFull => "file_converted_to_full"
  | fileRenamed => "file_renamed"
  | fileHardLinkCreated => "file_hard_link_created"
  | fileSuperseded => "file_superseded"
  | folderCreated => "folder_created"
  | folderDeleted => "folder_deleted"
  | folderRenamed => "folder_renamed"
  | placeholderCreated => "placeholder_created"

def ofCode? (code : Int) : Option Operation :=
  all.find? (fun operation => operation.code == code)

end Operation

end Enlistment
