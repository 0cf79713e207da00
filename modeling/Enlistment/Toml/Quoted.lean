import Enlistment.Toml.Number

/-!
Texts of TOML: between double quotes, where a backslash starts an escape, or between single quotes,
where nothing does. Three quotes of either kind allow line breaks.
-/

namespace Enlistment.Toml

open Enlistment.Text (isHexDigit valueOf)

def isPlain (character : Char) : Bool :=
  character == '\t' || (0x20 ≤ character.toNat && character.toNat != 0x7F)

def isBlank (character : Char) : Bool :=
  character == ' ' || character == '\t'

def skipBlanks (input : List Char) : List Char :=
  input.dropWhile isBlank

def lineBreak : List Char → Option (List Char)
  | '\n' :: rest => some rest
  | '\r' :: '\n' :: rest => some rest
  | _ => none

def codePoint (count : Nat) (input : List Char) : Option (Char × List Char) :=
  let found := input.take count
  if found.length = count ∧ found.all isHexDigit then
    let code := valueOf 16 found
    if code.isValidChar then some (Char.ofNat code, input.drop count) else none
  else none

def escape : Reader Char
  | 'b' :: rest => some ('\x08', rest)
  | 't' :: rest => some ('\t', rest)
  | 'n' :: rest => some ('\n', rest)
  | 'f' :: rest => some ('\x0c', rest)
  | 'r' :: rest => some ('\r', rest)
  | '"' :: rest => some ('"', rest)
  | '\\' :: rest => some ('\\', rest)
  | 'u' :: rest => codePoint 4 rest
  | 'U' :: rest => codePoint 8 rest
  | _ => none

/-- The rest of a text in double quotes; `collected` is in reverse. -/
def basicText (collected : List Char) : Nat → List Char → Option (String × List Char)
  | 0, _ => none
  | _ + 1, [] => none
  | steps + 1, character :: rest =>
      if character == '"' then some (String.ofList collected.reverse, rest)
      else if character == '\\' then do
        let (escaped, rest) ← escape rest
        basicText (escaped :: collected) steps rest
      else if isPlain character then basicText (character :: collected) steps rest
      else none

def literalText (collected : List Char) : List Char → Option (String × List Char)
  | [] => none
  | character :: rest =>
      if character == '\'' then some (String.ofList collected.reverse, rest)
      else if isPlain character then literalText (character :: collected) rest
      else none

/-- The end of a text in three quotes: up to two quotes may stand right before it. -/
def closing (quote : Char) (input : List Char) : Option (List Char × List Char) :=
  let quotes := input.takeWhile (· == quote)
  if quotes.length < 3 then none
  else
    let kept := min (quotes.length - 3) 2
    some (quotes.take kept, input.drop (kept + 3))

def skipBlanksAndBreaks : Nat → List Char → List Char
  | 0, input => input
  | steps + 1, input =>
      match input with
      | character :: rest =>
          if isBlank character then skipBlanksAndBreaks steps rest
          else
            match lineBreak input with
            | some rest => skipBlanksAndBreaks steps rest
            | none => input
      | [] => []

def longBasicText (collected : List Char) : Nat → List Char → Option (String × List Char)
  | 0, _ => none
  | _ + 1, [] => none
  | steps + 1, character :: rest =>
      if character == '"' then
        match closing '"' (character :: rest) with
        | some (kept, rest) => some (String.ofList (collected.reverse ++ kept), rest)
        | none => longBasicText (character :: collected) steps rest
      else if character == '\\' then
        match lineBreak (skipBlanks rest) with
        | some following =>
            longBasicText collected steps (skipBlanksAndBreaks following.length following)
        | none => do
            let (escaped, rest) ← escape rest
            longBasicText (escaped :: collected) steps rest
      else
        match lineBreak (character :: rest) with
        | some rest => longBasicText ('\n' :: collected) steps rest
        | none =>
            if isPlain character then longBasicText (character :: collected) steps rest else none

def longLiteralText (collected : List Char) : Nat → List Char → Option (String × List Char)
  | 0, _ => none
  | _ + 1, [] => none
  | steps + 1, character :: rest =>
      if character == '\'' then
        match closing '\'' (character :: rest) with
        | some (kept, rest) => some (String.ofList (collected.reverse ++ kept), rest)
        | none => longLiteralText (character :: collected) steps rest
      else
        match lineBreak (character :: rest) with
        | some rest => longLiteralText ('\n' :: collected) steps rest
        | none =>
            if isPlain character then longLiteralText (character :: collected) steps rest else none

def dropFirstBreak (input : List Char) : List Char :=
  (lineBreak input).getD input

def singleLineText : Reader String
  | '"' :: rest => basicText [] (rest.length + 1) rest
  | '\'' :: rest => literalText [] rest
  | _ => none

def quotedText : Reader String
  | '"' :: '"' :: '"' :: rest => longBasicText [] (rest.length + 1) (dropFirstBreak rest)
  | '\'' :: '\'' :: '\'' :: rest => longLiteralText [] (rest.length + 1) (dropFirstBreak rest)
  | input => singleLineText input

end Enlistment.Toml
