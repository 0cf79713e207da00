import Enlistment.Files

/-!
Stores as files. While a store is open there are two more files beside it.
-/

namespace Enlistment

structure StoreFile where
  place : Place
  tables : Tables

namespace StoreFile

def longestPath : Nat := 504

/-- Reads the tables at a place, which gets a new store if nothing is there. A file of one byte at
most is an empty store. -/
def readAt (place : Place) (files : Files) : Except DatabaseError (StoreFile × Files) :=
  if longestPath < place.foldl (fun size name => size + name.utf8ByteSize + 1) 0 then
    .error (.statement .cannotOpen)
  else
    match files.find? place with
    | none => .ok (⟨place, .empty⟩, files.put place (.store .empty))
    | some (.store tables) => .ok (⟨place, tables⟩, files)
    | some (.file content) =>
        if content.size ≤ 1 then .ok (⟨place, .empty⟩, files) else .error (.statement .notADatabase)
    | some _ => .error (.statement .cannotOpen)

def openAt (folder : Place) (path : String) (files : Files) :
    Except DatabaseError StoreFile × Files :=
  let (made, reached) := files.createParents .sound folder path
  match made, reached.filePlace folder path with
  | .error _, _ => (.error .createDirectory, reached)
  | .ok _, .error _ => (.error (.statement .cannotOpen), reached)
  | .ok _, .ok place =>
      match readAt place reached with
      | .error error => (.error error, reached)
      | .ok (store, opened) => (.ok store, opened)

def besides (place : Place) : List Place :=
  ["-wal", "-shm"].map fun ending => place.dropLast ++ [place.getLast?.getD "" ++ ending]

def keepOpen (place : Place) (files : Files) : Files :=
  (besides place).foldl (fun files beside => files.put beside (.file .empty)) files

def close (place : Place) (files : Files) : Files :=
  (besides place).foldl (fun files beside => files.erase beside) files

end StoreFile

end Enlistment
