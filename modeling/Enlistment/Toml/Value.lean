/-!
TOML documents as trees, and how statements build them. A table can be named by a header, implied by
a longer header, made by a dotted key or written inline, and which of these it was decides what may
be added to it later.
-/

namespace Enlistment

inductive TomlTable where
  | headed
  | implied
  | dotted
  | inline
deriving DecidableEq

inductive Toml where
  | text (value : String)
  | integer (value : Int)
  | float
  | boolean (value : Bool)
  | dateTime
  | array (items : List Toml)
  | table (origin : TomlTable) (fields : List (String × Toml))
  | tables (rows : List (List (String × Toml)))

namespace Toml

abbrev Fields := List (String × Toml)

/-- Replaces the value of a key by what a function makes of it, or adds the key. The function gets
`none` for a key that is not there, and may refuse. -/
def Fields.change (key : String) (update : Option Toml → Option Toml) : Fields → Option Fields
  | [] => (update none).map fun value => [(key, value)]
  | (name, value) :: rest =>
      if name = key then (update (some value)).map fun changed => (name, changed) :: rest
      else (Fields.change key update rest).map ((name, value) :: ·)

def changeLast (update : Fields → Option Fields) : List Fields → Option (List Fields)
  | [] => none
  | [row] => (update row).map ([·])
  | row :: next :: rest => (changeLast update (next :: rest)).map (row :: ·)

/-- Adds a value under a key; the keys before it lead through tables that dotted keys may extend.
A key can be given once. -/
def addValue (key : String) (value : Toml) : List String → Fields → Option Fields
  | [] => Fields.change key fun
      | none => some value
      | some _ => none
  | folder :: rest => Fields.change folder fun
      | none => (addValue key value rest []).map (.table .dotted)
      | some (.table .dotted fields) => (addValue key value rest fields).map (.table .dotted)
      | some (.table .implied fields) =>
          if rest.isEmpty then none else (addValue key value rest fields).map (.table .implied)
      | some (.tables rows) =>
          if rest.isEmpty then none else (changeLast (addValue key value rest) rows).map .tables
      | some _ => none

def changeUnder (update : Fields → Option Fields) : List String → Fields → Option Fields
  | [], fields => update fields
  | folder :: rest, fields => Fields.change folder (fun
      | none => (changeUnder update rest []).map (.table .implied)
      | some (.table .inline _) => none
      | some (.table origin fields) => (changeUnder update rest fields).map (.table origin)
      | some (.tables rows) => (changeLast (changeUnder update rest) rows).map .tables
      | some _ => none) fields

inductive Statement where
  | assignment (folders : List String) (key : String) (value : Toml)
  | tableHeader (folders : List String) (key : String)
  | tablesHeader (folders : List String) (key : String)

structure Section where
  header : Option Statement
  assignments : List (List String × String × Toml)

def addAssignments (assignments : List (List String × String × Toml)) (fields : Fields) :
    Option Fields :=
  assignments.foldlM (fun fields (folders, key, value) => addValue key value folders fields) fields

/-- Adds a section to a document. A table is headed once, and only if nothing but longer headers
made it before. -/
def addSection (part : Section) (document : Fields) : Option Fields :=
  match part.header with
  | some (.tableHeader folders key) =>
      changeUnder (Fields.change key fun
        | none => (addAssignments part.assignments []).map (.table .headed)
        | some (.table .implied fields) =>
            (addAssignments part.assignments fields).map (.table .headed)
        | some _ => none) folders document
  | some (.tablesHeader folders key) =>
      changeUnder (Fields.change key fun
        | none => (addAssignments part.assignments []).map fun row => .tables [row]
        | some (.tables rows) =>
            (addAssignments part.assignments []).map fun row => .tables (rows ++ [row])
        | some _ => none) folders document
  | _ => addAssignments part.assignments document

def sections (header : Option Statement) (assignments : List (List String × String × Toml)) :
    List Statement → List Section
  | [] => [⟨header, assignments.reverse⟩]
  | .assignment folders key value :: rest =>
      sections header ((folders, key, value) :: assignments) rest
  | other :: rest => ⟨header, assignments.reverse⟩ :: sections (some other) [] rest

def ofStatements (statements : List Statement) : Option Fields :=
  (sections none [] statements).foldlM (fun document part => addSection part document) []

def ofInline (assignments : List (List String × String × Toml)) : Option Toml :=
  (addAssignments assignments []).map (.table .inline)

end Toml

end Enlistment
