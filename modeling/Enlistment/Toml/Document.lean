import Enlistment.Toml.Quoted

/-!
Reading a TOML document: one statement a line, a value behind a key. Arrays may be spread over
lines, inline tables may not. Values nest less than eighty levels deep, and a dotted key has fewer
than eighty parts.
-/

namespace Enlistment.Toml

def nestingLimit : Nat := 80

def isBareKeyCharacter (character : Char) : Bool :=
  character.isAlphanum || character == '-' || character == '_'

def simpleKey (input : List Char) : Option (String × List Char) :=
  match input with
  | '"' :: _ => singleLineText input
  | '\'' :: _ => singleLineText input
  | _ =>
      let bare := input.takeWhile isBareKeyCharacter
      if bare.isEmpty then none
      else some (String.ofList bare, input.dropWhile isBareKeyCharacter)

def keyParts : Nat → List Char → Option (List String × List Char)
  | 0, _ => none
  | steps + 1, input => do
      let (part, rest) ← simpleKey (skipBlanks input)
      match skipBlanks rest with
      | '.' :: rest =>
          let (parts, rest) ← keyParts steps rest
          pure (part :: parts, rest)
      | rest => pure ([part], rest)

def key (input : List Char) : Option ((List String × String) × List Char) := do
  let (parts, rest) ← keyParts (nestingLimit - 1) input
  match parts.reverse with
  | last :: folders => pure ((folders.reverse, last), rest)
  | [] => none

def comment (input : List Char) : Option (List Char) :=
  match input with
  | '#' :: rest => some (rest.dropWhile isPlain)
  | _ => none

def skipBetweenItems : Nat → List Char → List Char
  | 0, input => input
  | steps + 1, input =>
      match input with
      | [] => []
      | character :: rest =>
          if isBlank character then skipBetweenItems steps rest
          else
            match (lineBreak input).orElse fun _ => comment input with
            | some rest => skipBetweenItems steps rest
            | none => input

def items (value : Reader Toml) : Nat → List Char → Option (List Toml × List Char)
  | 0, _ => none
  | steps + 1, input =>
      match skipBetweenItems input.length input with
      | ']' :: rest => some ([], rest)
      | input => do
          let (item, rest) ← value input
          match skipBetweenItems rest.length rest with
          | ',' :: rest =>
              let (more, rest) ← items value steps rest
              pure (item :: more, rest)
          | ']' :: rest => pure ([item], rest)
          | _ => none

def assignment (value : Reader Toml) (input : List Char) :
    Option ((List String × String × Toml) × List Char) := do
  let ((folders, last), rest) ← key input
  match rest with
  | '=' :: rest =>
      let (found, rest) ← value (skipBlanks rest)
      pure ((folders, last, found), rest)
  | _ => none

def moreAssignments (value : Reader Toml) :
    Nat → List Char → Option (List (List String × String × Toml) × List Char)
  | 0, _ => none
  | steps + 1, input =>
      match skipBlanks input with
      | '\x7d' :: rest => some ([], rest)
      | ',' :: rest => do
          let (first, rest) ← assignment value rest
          let (more, rest) ← moreAssignments value steps rest
          pure (first :: more, rest)
      | _ => none

def inlineTable (value : Reader Toml) (input : List Char) : Option (Toml × List Char) :=
  match skipBlanks input with
  | '\x7d' :: rest => (ofInline []).map (·, rest)
  | input => do
      let (first, rest) ← assignment value input
      let (more, rest) ← moreAssignments value rest.length.succ rest
      pure (← ofInline (first :: more), rest)

def word : Reader Toml
  | 't' :: 'r' :: 'u' :: 'e' :: rest => some (.boolean true, rest)
  | 'f' :: 'a' :: 'l' :: 's' :: 'e' :: rest => some (.boolean false, rest)
  | input => (specialFloat input).map fun rest => (.float, rest)

def scalar (input : List Char) : Option (Toml × List Char) :=
  match input with
  | [] => none
  | first :: _ =>
      if first == '"' || first == '\'' then
        (quotedText input).map fun (found, rest) => (.text found, rest)
      else if first == '+' || first == '-' || first.isDigit then number input
      else word input

def value : Nat → List Char → Option (Toml × List Char)
  | 0, input => scalar input
  | depth + 1, input =>
      match input with
      | '[' :: rest =>
          (items (value depth) rest.length.succ rest).map fun (found, rest) => (.array found, rest)
      | '\x7b' :: rest => inlineTable (value depth) rest
      | input => scalar input

def lineTail (input : List Char) : Option (List Char) :=
  let input := skipBlanks input
  match (comment input).getD input with
  | [] => some []
  | input => lineBreak input

def header (closing : List Char) (input : List Char) :
    Option ((List String × String) × List Char) := do
  let (path, rest) ← key input
  if closing.isPrefixOf rest then pure (path, ← lineTail (rest.drop closing.length)) else none

def statement (input : List Char) : Option (Statement × List Char) :=
  match input with
  | '[' :: '[' :: rest => do
      let ((folders, last), rest) ← header [']', ']'] rest
      pure (.tablesHeader folders last, rest)
  | '[' :: rest => do
      let ((folders, last), rest) ← header [']'] rest
      pure (.tableHeader folders last, rest)
  | input => do
      let ((folders, last, found), rest) ← assignment (value (nestingLimit - 1)) input
      pure (.assignment folders last found, ← lineTail rest)

def statements : Nat → List Char → Option (List Statement)
  | 0, _ => none
  | steps + 1, input =>
      match skipBlanks input with
      | [] => some []
      | input =>
          match (lineBreak input).orElse fun _ => (comment input).bind lineTail with
          | some rest => statements steps rest
          | none => do
              let (first, rest) ← statement input
              let more ← statements steps rest
              pure (first :: more)

def dropByteOrderMark : List Char → List Char
  | '\ufeff' :: rest => rest
  | input => input

def parse (document : String) : Option Fields := do
  let input := dropByteOrderMark document.toList
  ofStatements (← statements (input.length + 1) input)

end Enlistment.Toml
