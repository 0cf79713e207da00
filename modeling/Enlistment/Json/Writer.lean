import Enlistment.Json.Token

/-!
Writing JSON: on one line without blanks, or indented by two spaces with one item a line.
-/

namespace Enlistment.Json

def fourHexDigits (code : Nat) : List Char :=
  let digits := Nat.toDigits 16 code
  List.replicate (4 - digits.length) '0' ++ digits

def escapeCharacter (character : Char) : List Char :=
  match character with
  | '"' => ['\\', '"']
  | '\\' => ['\\', '\\']
  | '\x08' => ['\\', 'b']
  | '\t' => ['\\', 't']
  | '\n' => ['\\', 'n']
  | '\x0c' => ['\\', 'f']
  | '\r' => ['\\', 'r']
  | _ =>
      if character.toNat < 0x20 then '\\' :: 'u' :: fourHexDigits character.toNat
      else [character]

def quote (text : String) : List Char :=
  '"' :: text.toList.flatMap escapeCharacter ++ ['"']

def writeNatural (value : Nat) : List Char :=
  Nat.toDigits 10 value

def writeBoolean (value : Bool) : List Char :=
  if value then ['t', 'r', 'u', 'e'] else ['f', 'a', 'l', 's', 'e']

def separate (separator : List Char) : List (List Char) → List Char
  | [] => []
  | [item] => item
  | item :: next :: rest => item ++ separator ++ separate separator (next :: rest)

def writeObject (members : List (String × List Char)) : List Char :=
  '\x7b' :: separate [','] (members.map fun (key, value) => quote key ++ ':' :: value) ++ ['\x7d']

def writeArray (items : List (List Char)) : List Char :=
  '[' :: separate [','] items ++ [']']

def writeIndented (opening closing : Char) (items : List (List Char)) : List Char :=
  if items.isEmpty then [opening, closing]
  else
    opening :: '\n' :: ' ' :: ' ' :: separate [',', '\n', ' ', ' '] items ++ ['\n', closing]

def writeIndentedObject (members : List (String × List Char)) : List Char :=
  writeIndented '\x7b' '\x7d' (members.map fun (key, value) => quote key ++ ':' :: ' ' :: value)

def writeIndentedArray (items : List (List Char)) : List Char :=
  writeIndented '[' ']' items

end Enlistment.Json
