import Enlistment.Path.Names
import Enlistment.Store.Tables

/-!
The files of a machine. A place is the list of names that leads to it from the top; the top is a
folder, and whatever is at a place is in a folder. A path is followed name by name, from the top or
from a given folder, and every name but the last has to be that of a folder that is there. The disk
under the files can refuse a place by itself, and can stop a write behind any byte.
-/

namespace Enlistment

inductive FileFault where
  | notFound
  | notADirectory
  | alreadyExists
  | isADirectory
  | noDevice
  | nameTooLong
  | hasZero
  | denied
  | readOnly
  | noSpace
  | tooLarge
  | inputOutput
deriving DecidableEq

def FileFault.message : FileFault → String
  | notFound => "No such file or directory (os error 2)"
  | notADirectory => "Not a directory (os error 20)"
  | alreadyExists => "File exists (os error 17)"
  | isADirectory => "Is a directory (os error 21)"
  | noDevice => "No such device or address (os error 6)"
  | nameTooLong => "File name too long (os error 36)"
  | hasZero => "file name contained an unexpected NUL byte"
  | denied => "Permission denied (os error 13)"
  | readOnly => "Read-only file system (os error 30)"
  | noSpace => "No space left on device (os error 28)"
  | tooLarge => "File too large (os error 27)"
  | inputOutput => "Input/output error (os error 5)"

abbrev Place := List String

inductive FileNode where
  | file (content : ByteArray)
  | folder
  | socket (mount : Nat)
  | store (tables : Tables)

structure Files where
  nodes : List (Place × FileNode)

structure Disk where
  /-- Why nothing can be made, opened or moved to at a place. -/
  refusal? : Place → Option FileFault
  /-- After how many bytes the writing of a file stops, and why. -/
  stop? : Option (Nat × FileFault)

namespace Disk

def sound : Disk := ⟨fun _ => none, none⟩

def permit (place : Place) (disk : Disk) : Except FileFault Unit :=
  match disk.refusal? place with
  | some fault => .error fault
  | none => .ok ()

def taken (content : ByteArray) (disk : Disk) : ByteArray :=
  match disk.stop? with
  | some (bytes, _) => content.extract 0 bytes
  | none => content

def finish (content : ByteArray) (disk : Disk) : Except FileFault Unit :=
  match disk.stop? with
  | some (bytes, fault) => if bytes < content.size then .error fault else .ok ()
  | none => .ok ()

end Disk

namespace Files

def empty : Files := ⟨[]⟩

def find? (place : Place) (files : Files) : Option FileNode :=
  if place.isEmpty then some .folder else files.nodes.lookup place

def isFolder (place : Place) (files : Files) : Bool :=
  match files.find? place with
  | some .folder => true
  | _ => false

def put (place : Place) (node : FileNode) (files : Files) : Files :=
  ⟨(place, node) :: files.nodes.filter (·.1 ≠ place)⟩

def erase (place : Place) (files : Files) : Files :=
  ⟨files.nodes.filter (·.1 ≠ place)⟩

def longestName : Nat := 255

def pathBound : Nat := 4096

def start (folder : Place) (path : String) : Except FileFault Place :=
  if path.toList.contains '\x00' then .error .hasZero
  else if path.isEmpty then .error .notFound
  else if pathBound ≤ path.utf8ByteSize then .error .nameTooLong
  else .ok (if Path.isAbsolute path then [] else folder)

def entry (place : Place) (name : String) (files : Files) : Except FileFault Place :=
  if !files.isFolder place then .error .notADirectory
  else if longestName < name.utf8ByteSize then .error .nameTooLong
  else .ok (place ++ [name])

def follow (files : Files) (place : Place) (name : String) : Except FileFault Place := do
  let found ← files.entry place name
  if name == ".." then pure place.dropLast
  else if (files.find? found).isSome then pure found
  else throw .notFound

def walk (place : Place) (names : List String) (files : Files) : Except FileFault Place :=
  names.foldlM files.follow place

def resolve (folder : Place) (path : String) (files : Files) : Except FileFault Place := do
  let place ← files.walk (← start folder path) (Path.names path)
  if Path.endsInFolder path && !files.isFolder place then throw .notADirectory
  pure place

def at? (folder : Place) (path : String) (files : Files) : Option FileNode :=
  (files.resolve folder path).toOption.bind files.find?

def newPlace (place : Place) (names : List String) (files : Files) : Except FileFault Place := do
  match names.getLast? with
  | none => throw .alreadyExists
  | some name =>
      let found ← files.entry (← files.walk place names.dropLast) name
      if name == ".." then throw .alreadyExists
      pure found

def filePlace (folder : Place) (path : String) (files : Files) : Except FileFault Place := do
  let place ← files.newPlace (← start folder path) (Path.names path)
  if Path.endsInFolder path || files.isFolder place then throw .isADirectory
  pure place

def makeFolder (disk : Disk) (place : Place) (names : List String) (files : Files) :
    Except FileFault Files := do
  match files.walk place names with
  | .ok found => if files.isFolder found then pure files else throw .alreadyExists
  | .error _ =>
      let found ← files.newPlace place names
      disk.permit found
      pure (files.put found .folder)

/-- Makes a folder and all folders above it that are missing; its names are given in reverse. What was
made before something failed is left. -/
def makeFolders (disk : Disk) (place : Place) : List String → Files → Except FileFault Unit × Files
  | [], files => (.ok (), files)
  | name :: above, files =>
      match files.makeFolder disk place (name :: above).reverse with
      | .ok made => (.ok (), made)
      | .error .notFound =>
          match makeFolders disk place above files with
          | (.error fault, made) => (.error fault, made)
          | (.ok _, made) =>
              match made.makeFolder disk place (name :: above).reverse with
              | .ok all => (.ok (), all)
              | .error fault => (.error fault, made)
      | .error fault => (.error fault, files)

def createFolders (disk : Disk) (folder : Place) (path : String) (files : Files) :
    Except FileFault Unit × Files :=
  if path.isEmpty then (.ok (), files)
  else
    match start folder path with
    | .error fault => (.error fault, files)
    | .ok place => makeFolders disk place (Path.names path).reverse files

def createParents (disk : Disk) (folder : Place) (path : String) (files : Files) :
    Except FileFault Unit × Files :=
  files.createFolders disk folder ((Path.parent? path).getD "")

def write (folder : Place) (path : String) (node : FileNode) (files : Files) :
    Except FileFault Files := do
  let place ← files.filePlace folder path
  match files.find? place with
  | some (.socket _) => throw .noDevice
  | _ => pure (files.put place node)

/-- Writes a file as far as a disk takes it. Once the file was opened, what had been in it is gone. -/
def writeFile (disk : Disk) (folder : Place) (path : String) (content : ByteArray) (files : Files) :
    Except FileFault Unit × Files :=
  let opened := do
    disk.permit (← files.filePlace folder path)
    files.write folder path (.file (disk.taken content))
  match opened with
  | .error fault => (.error fault, files)
  | .ok written => (disk.finish content, written)

def remove (folder : Place) (path : String) (files : Files) : Except FileFault Files := do
  let place ← files.resolve folder path
  if files.isFolder place then throw .isADirectory
  pure (files.erase place)

def rename (disk : Disk) (folder : Place) (source target : String) (files : Files) :
    Except FileFault Files := do
  match files.find? (← files.filePlace folder source) with
  | none => throw .notFound
  | some node =>
      let left ← files.remove folder source
      let place ← files.filePlace folder target
      disk.permit place
      pure (left.put place node)

end Files

end Enlistment
