import Enlistment.Json.Token

/-!
JSON values and their reader. The reader keeps the open arrays and objects on a stack, so the depth
of a value is not limited.
-/

namespace Enlistment

inductive Json where
  | null
  | boolean (value : Bool)
  | natural (value : Nat)
  | otherNumber
  | text (value : Option String)
  | array (items : List Json)
  | object (members : List (Option String × Json))

namespace Json

/-- An array or object that is still open, with what it holds so far in reverse. -/
inductive Frame where
  | array (items : List Json)
  | object (members : List (Option String × Json))
  | member (members : List (Option String × Json)) (key : Option String)

inductive Expectation where
  | value
  | firstItem
  | firstKey
  | key
  | colon
  | commaOrClose
deriving DecidableEq

inductive Progress where
  | inside (stack : List Frame) (expectation : Expectation)
  | complete (value : Json)

def deliver (value : Json) : List Frame → Option Progress
  | [] => some (.complete value)
  | .array items :: rest => some (.inside (.array (value :: items) :: rest) .commaOrClose)
  | .member members key :: rest =>
      some (.inside (.object ((key, value) :: members) :: rest) .commaOrClose)
  | .object _ :: _ => none

def startValue (stack : List Frame) : Token → Option Progress
  | .null => deliver .null stack
  | .boolean value => deliver (.boolean value) stack
  | .natural value => deliver (.natural value) stack
  | .otherNumber => deliver .otherNumber stack
  | .text value => deliver (.text value) stack
  | .openArray => some (.inside (.array [] :: stack) .firstItem)
  | .openObject => some (.inside (.object [] :: stack) .firstKey)
  | _ => none

def startMember : List Frame → Token → Option Progress
  | .object members :: rest, .text key => some (.inside (.member members key :: rest) .colon)
  | _, _ => none

def close : List Frame → Token → Option Progress
  | .array items :: rest, .closeArray => deliver (.array items.reverse) rest
  | .object members :: rest, .closeObject => deliver (.object members.reverse) rest
  | _, _ => none

def advance : Progress → Token → Option Progress
  | .complete _, _ => none
  | .inside stack .value, token => startValue stack token
  | .inside stack .firstItem, token =>
      if token = .closeArray then close stack token else startValue stack token
  | .inside stack .firstKey, token =>
      if token = .closeObject then close stack token else startMember stack token
  | .inside stack .key, token => startMember stack token
  | .inside stack .colon, token => if token = .colon then some (.inside stack .value) else none
  | .inside stack .commaOrClose, token =>
      if token = .comma then
        match stack with
        | .array _ :: _ => some (.inside stack .value)
        | .object _ :: _ => some (.inside stack .key)
        | _ => none
      else close stack token

def parse (text : String) : Option Json := do
  let tokens ← tokenize text.toList
  match ← tokens.foldlM advance (.inside [] .value) with
  | .complete value => some value
  | .inside _ _ => none

def boolean? : Json → Option Bool
  | .boolean value => some value
  | _ => none

def naturalBelow? (bound : Nat) : Json → Option Nat
  | .natural value => if value < bound then some value else none
  | _ => none

def text? : Json → Option String
  | .text value => value
  | _ => none

def texts? : Json → Option (List String)
  | .array items => items.mapM text?
  | _ => none

/-- The values of the named fields, in the order of the names. An object must hold each name once;
other keys are allowed, and may repeat. An array must hold one item per name. -/
def fields? (names : List String) : Json → Option (List Json)
  | .array items => if items.length = names.length then some items else none
  | .object members =>
      if members.all (·.1.isSome) then
        names.mapM fun name =>
          match members.filter (fun member => member.1 == some name) with
          | [(_, value)] => some value
          | _ => none
      else none
  | _ => none

/-- The name of a constructor without content: its text, or an object with that one key and no
value. -/
def name? : Json → Option String
  | .text value => value
  | .object [(key, .null)] => key
  | _ => none

end Json

end Enlistment
