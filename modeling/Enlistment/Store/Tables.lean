import Enlistment.Store.Error
import Enlistment.Text.Ascii

/-!
The durable tables of an enlistment, as rows that need not make sense: what a row means is decided
where it is read. Rows are kept in the order of their keys.
-/

namespace Enlistment

structure PlaceholderRow where
  path : String
  pathType : Int
  sha : Option String
deriving DecidableEq

/-- What is in a column of texts and is no text: bytes that were stored as such, or that are not UTF-8. -/
inductive UnreadableText where
  | blob (bytes : List UInt8)
  | malformed (bytes : List UInt8) (broken : ¬ bytes.toByteArray.IsValidUTF8)
deriving DecidableEq

inductive StoreValue where
  | null
  | integer (value : Int)
  | real (bits : UInt64)
  | text (value : String)
  | unreadable (bytes : UnreadableText)
deriving DecidableEq

namespace StoreValue

def ofText? : Option String → StoreValue
  | some value => text value
  | none => null

def ofInteger? : Option Int → StoreValue
  | some value => integer value
  | none => null

/-- Nothing reads as the empty text. -/
def readText (column : String) : StoreValue → Except StatementFault String
  | null => .ok ""
  | text value => .ok value
  | _ => .error (.undecodable column)

def readInteger (column : String) : StoreValue → Except StatementFault Int
  | null => .ok 0
  | integer value => .ok value
  | _ => .error (.undecodable column)

def readOptional {Read : Type} (read : StoreValue → Except StatementFault Read) :
    StoreValue → Except StatementFault (Option Read)
  | null => .ok none
  | value => (read value).map some

end StoreValue

structure TaskRow where
  id : Int
  operation : StoreValue
  path : StoreValue
  oldPath : StoreValue
  pathType : StoreValue
  sha : StoreValue
deriving DecidableEq

/-- What tells placeholders apart: the letters `A` to `Z` count as `a` to `z`, and behind a zero
character only the length counts. -/
structure PlaceholderKey where
  text : String
  size : Nat
deriving DecidableEq

namespace PlaceholderKey

def ofPath (path : String) : PlaceholderKey :=
  ⟨String.ofList ((path.toList.takeWhile (· != '\x00')).map Char.toLower), path.utf8ByteSize⟩

instance : LT PlaceholderKey where
  lt left right := left.text < right.text ∨ left.text = right.text ∧ left.size < right.size

instance : DecidableLT PlaceholderKey := fun left right =>
  inferInstanceAs (Decidable (left.text < right.text ∨ left.text = right.text ∧ left.size < right.size))

end PlaceholderKey

def PlaceholderRow.key (row : PlaceholderRow) : PlaceholderKey :=
  .ofPath row.path

namespace Rows

def put {Row Key : Type} [LT Key] [DecidableLT Key] (key : Row → Key) (row : Row) :
    List Row → List Row
  | [] => [row]
  | first :: rest =>
      if key row < key first then row :: first :: rest
      else if key first < key row then first :: put key row rest
      else row :: rest

end Rows

structure Tables where
  version : Int
  placeholders : List PlaceholderRow
  modifiedPaths : List String
  tasks : List TaskRow
  lastTaskId : Int
  /-- Modified paths that are no text, in their order. No statement finds them, since each looks for a
  text. -/
  unreadablePaths : List UnreadableText
deriving DecidableEq

namespace Tables

def empty : Tables :=
  ⟨0, [], [], [], 0, []⟩

def putPlaceholder (row : PlaceholderRow) (tables : Tables) : Tables :=
  { tables with
    placeholders := Rows.put PlaceholderRow.key row tables.placeholders }

def deletePlaceholder (path : String) (tables : Tables) : Tables :=
  { tables with
    placeholders := tables.placeholders.filter fun stored => stored.key ≠ PlaceholderKey.ofPath path }

def hasPlaceholder (path : String) (tables : Tables) : Bool :=
  tables.placeholders.any fun stored => stored.key = PlaceholderKey.ofPath path

def insertModifiedPath (entry : String) (tables : Tables) : Tables :=
  { tables with modifiedPaths := Rows.put id entry tables.modifiedPaths }

def deleteModifiedPaths (entries : List String) (tables : Tables) : Tables :=
  { tables with modifiedPaths := tables.modifiedPaths.filter (!entries.contains ·) }

def lastPossibleTaskId : Int := 0x7FFFFFFFFFFFFFFF

def appendTask (row : Int → TaskRow) (tables : Tables) : Except StatementFault (Int × Tables) :=
  if tables.lastTaskId < lastPossibleTaskId then
    let id := tables.lastTaskId + 1
    .ok (id, { tables with tasks := tables.tasks ++ [row id], lastTaskId := id })
  else .error .full

def deleteTask (id : Int) (tables : Tables) : Tables :=
  { tables with tasks := tables.tasks.filter (·.id != id) }

def bringUpToDate (tables : Tables) : Except DatabaseError Tables :=
  if schemaVersion < tables.version then .error (.newerSchema tables.version)
  else .ok { tables with version := schemaVersion }

end Tables

end Enlistment
