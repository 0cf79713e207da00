import Enlistment.Path.Entry
import Enlistment.Store.Database

/-!
The paths that differ from what was checked out. The set is kept in memory, each entry under its
case key, and every change is written to the store before it is made in memory. An entry below a
folder of the set is covered and need not be stored.
-/

namespace Enlistment

structure UpdateOutcome where
  accepted : Bool
  retryable : Bool
deriving DecidableEq

namespace UpdateOutcome

def success : UpdateOutcome := ⟨true, false⟩

def failure (error : DatabaseError) : UpdateOutcome :=
  ⟨false, error != .shutDown⟩

end UpdateOutcome

structure CompactionSummary where
  startingCount : Nat
  endCount : Nat
deriving DecidableEq

/-- Entries under their case keys; no key occurs twice. -/
structure ModifiedPaths where
  entries : List (String × String)
deriving DecidableEq

namespace ModifiedPaths

def empty : ModifiedPaths := ⟨[]⟩

def count (paths : ModifiedPaths) : Nat :=
  paths.entries.length

def all (paths : ModifiedPaths) : List String :=
  paths.entries.map (·.2)

def hasKey (key : String) (paths : ModifiedPaths) : Bool :=
  paths.entries.any (fun stored => stored.1 == key)

def find? (key : String) (paths : ModifiedPaths) : Option String :=
  (paths.entries.find? (fun stored => stored.1 == key)).map (·.2)

def erase (key : String) (paths : ModifiedPaths) : ModifiedPaths :=
  ⟨paths.entries.filter (fun stored => stored.1 != key)⟩

def put (entry : String) (paths : ModifiedPaths) : ModifiedPaths :=
  let key := Path.caseKey entry
  ⟨(paths.erase key).entries ++ [(key, entry)]⟩

def ofEntries (entries : List String) : ModifiedPaths :=
  entries.foldl (fun paths entry => paths.put entry) empty

def hasAncestor (entry : String) (paths : ModifiedPaths) : Bool :=
  (Path.ancestorFolders entry).any fun folder => paths.hasKey (Path.caseKey folder)

def covers (entry : String) (paths : ModifiedPaths) : Bool :=
  paths.hasKey (Path.caseKey entry) || paths.hasAncestor entry

def redundant (paths : ModifiedPaths) : List (String × String) :=
  paths.entries.filter fun stored => paths.hasAncestor stored.2

end ModifiedPaths

structure ModifiedPathsStore where
  database : Database
  paths : ModifiedPaths
deriving DecidableEq

namespace ModifiedPathsStore

def checkTexts (tables : Tables) : Except DatabaseError Unit :=
  match tables.unreadablePaths with
  | [] => .ok ()
  | _ :: _ => .error (.statement (.undecodable "path"))

/-- Reads the set. An empty table gets the attributes file first. -/
def seed (tables : Tables) : List String × Tables :=
  if tables.modifiedPaths.isEmpty then
    ([Path.gitAttributes], tables.insertModifiedPath Path.gitAttributes)
  else (tables.modifiedPaths, tables)

def load (database : Database) : Except DatabaseError ModifiedPathsStore × Database :=
  match database.run (fun tables => (checkTexts tables).map fun _ => seed tables) with
  | (.ok entries, loaded) => (.ok ⟨loaded, .ofEntries entries⟩, loaded)
  | (.error error, kept) => (.error error, kept)

def contains (path : String) (isFolder : Bool) (store : ModifiedPathsStore) : Bool :=
  store.paths.hasKey (Path.caseKey (Path.normalizeEntry path isFolder))

def addEntry (entry : String) (store : ModifiedPathsStore) : UpdateOutcome × ModifiedPathsStore :=
  if store.paths.covers entry then (.success, store)
  else
    -- entries below a folder that is added now stay where they are
    match store.database.update (Tables.insertModifiedPath entry) with
    | (.ok _, database) => (.success, ⟨database, store.paths.put entry⟩)
    | (.error error, database) => (.failure error, { store with database })

def add (path : String) (isFolder : Bool) (store : ModifiedPathsStore) :
    UpdateOutcome × ModifiedPathsStore :=
  store.addEntry (Path.normalizeEntry path isFolder)

def removeKey (key : String) (store : ModifiedPathsStore) : UpdateOutcome × ModifiedPathsStore :=
  match store.paths.find? key with
  | none => (.success, store)
  | some stored =>
      -- a row of the same key in another spelling is left
      match store.database.update (Tables.deleteModifiedPaths [stored]) with
      | (.ok _, database) => (.success, ⟨database, store.paths.erase key⟩)
      | (.error error, database) => (.failure error, { store with database })

def remove (path : String) (isFolder : Bool) (store : ModifiedPathsStore) :
    UpdateOutcome × ModifiedPathsStore :=
  store.removeKey (Path.caseKey (Path.normalizeEntry path isFolder))

def compact (store : ModifiedPathsStore) :
    Except DatabaseError CompactionSummary × ModifiedPathsStore :=
  let redundant := store.paths.redundant
  if redundant.isEmpty then (.ok ⟨store.paths.count, store.paths.count⟩, store)
  else
    match store.database.update (Tables.deleteModifiedPaths (redundant.map (·.2))) with
    | (.ok _, database) =>
        let kept := redundant.foldl (fun paths stored => paths.erase stored.1) store.paths
        (.ok ⟨store.paths.count, kept.count⟩, ⟨database, kept⟩)
    | (.error error, database) => (.error error, { store with database })

end ModifiedPathsStore

end Enlistment
