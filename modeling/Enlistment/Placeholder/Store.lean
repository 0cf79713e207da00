import Enlistment.Placeholder.Record
import Enlistment.Store.Database

/-!
The placeholders in the store, and what one user of the store remembers of them. The memory holds
answers that were given and writes that were made, under the key of the path; a remembered answer is
given without a look at the store.
-/

namespace Enlistment

namespace PlaceholderRow

def ofRecord (record : PlaceholderRecord) : PlaceholderRow :=
  ⟨record.path, record.kind.pathType.code, record.sha?⟩

def toRecord (row : PlaceholderRow) : Except DatabaseError PlaceholderRecord :=
  match PathType.ofCode? row.pathType with
  | none => .error (.statement (.unknownPathType row.pathType))
  | some pathType =>
      match PlaceholderKind.ofColumns pathType row.sha with
      | .ok kind => .ok ⟨row.path, kind⟩
      | .error fault => .error (.corruptRow "Placeholders" (row.path ++ ": " ++ fault.message))

end PlaceholderRow

structure PlaceholderEntries where
  files : List PlaceholderRecord
  folders : List PlaceholderRecord
deriving DecidableEq

def PlaceholderEntries.ofRecords (records : List PlaceholderRecord) : PlaceholderEntries :=
  ⟨records.filter (!·.isFolder), records.filter (·.isFolder)⟩

/-- Remembered answers to whether a path is a placeholder, the latest first. Paths that differ in the
case of the letters `A` to `Z` share an answer. -/
structure PlaceholderMemory where
  answers : List (String × Bool)
deriving DecidableEq

namespace PlaceholderMemory

def empty : PlaceholderMemory := ⟨[]⟩

def remembered? (path : String) (memory : PlaceholderMemory) : Option Bool :=
  memory.answers.lookup (Text.asciiLowercase path)

def remember (path : String) (present : Bool) (memory : PlaceholderMemory) : PlaceholderMemory :=
  let key := Text.asciiLowercase path
  ⟨(key, present) :: memory.answers.filter (fun answer => answer.1 != key)⟩

end PlaceholderMemory

structure PlaceholderStore where
  database : Database
  memory : PlaceholderMemory
deriving DecidableEq

namespace PlaceholderStore

def count (store : PlaceholderStore) : Except DatabaseError Nat × PlaceholderStore :=
  let (answer, database) := store.database.query fun tables => .ok tables.placeholders.length
  (answer, { store with database })

def entries (store : PlaceholderStore) :
    Except DatabaseError PlaceholderEntries × PlaceholderStore :=
  let (answer, database) := store.database.query fun tables =>
    (tables.placeholders.mapM PlaceholderRow.toRecord).map PlaceholderEntries.ofRecords
  (answer, { store with database })

/-- The paths of the files. What else their rows hold is not looked at. -/
def filePaths (store : PlaceholderStore) :
    Except DatabaseError (List String) × PlaceholderStore :=
  let (answer, database) := store.database.query fun tables =>
    .ok ((tables.placeholders.filter (·.pathType == PathType.file.code)).map (·.path))
  (answer, { store with database })

def contains (path : String) (store : PlaceholderStore) :
    Except DatabaseError Bool × PlaceholderStore :=
  match store.memory.remembered? path with
  | some present => (.ok present, store)
  | none =>
      match store.database.query fun tables => .ok (tables.hasPlaceholder path) with
      | (.ok present, database) => (.ok present, ⟨database, store.memory.remember path present⟩)
      | (.error error, database) => (.error error, { store with database })

def write (path : String) (present : Bool) (change : Tables → Tables) (store : PlaceholderStore) :
    Except DatabaseError Unit × PlaceholderStore :=
  match store.database.update change with
  | (.ok _, database) => (.ok (), ⟨database, store.memory.remember path present⟩)
  | (.error error, database) => (.error error, { store with database })

def add (record : PlaceholderRecord) (store : PlaceholderStore) :
    Except DatabaseError Unit × PlaceholderStore :=
  store.write record.path true (Tables.putPlaceholder (.ofRecord record))

def remove (path : String) (store : PlaceholderStore) :
    Except DatabaseError Unit × PlaceholderStore :=
  store.write path false (Tables.deletePlaceholder path)

end PlaceholderStore

end Enlistment
