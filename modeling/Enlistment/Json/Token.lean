import Enlistment.Text.Ascii

/-!
The lexical layer of JSON: punctuation, words, numbers and quoted text. A quoted text may name half
of a surrogate pair by an escape; it is then well formed, but it stands for no text.
-/

namespace Enlistment.Json

inductive Token where
  | openObject
  | closeObject
  | openArray
  | closeArray
  | colon
  | comma
  | null
  | boolean (value : Bool)
  | natural (value : Nat)
  | otherNumber
  /-- Quoted text; `none` when an escape names half of a surrogate pair. -/
  | text (value : Option String)
deriving DecidableEq

def isBlank (character : Char) : Bool :=
  character == ' ' || character == '\t' || character == '\n' || character == '\r'

def naturalOfDigits (digits : List Char) : Nat :=
  digits.foldl (fun value digit => 10 * value + (digit.toNat - '0'.toNat)) 0

def isWholePart : List Char → Bool
  | [] => false
  | ['0'] => true
  | first :: rest => first != '0' && (first :: rest).all Char.isDigit

def isDigits (digits : List Char) : Bool :=
  !digits.isEmpty && digits.all Char.isDigit

def isExponentPart : List Char → Bool
  | [] => true
  | mark :: rest =>
      (mark == 'e' || mark == 'E') &&
        match rest with
        | '+' :: digits => isDigits digits
        | '-' :: digits => isDigits digits
        | digits => isDigits digits

def isFractionPart : List Char → Bool
  | '.' :: rest =>
      isDigits (rest.takeWhile Char.isDigit) && isExponentPart (rest.dropWhile Char.isDigit)
  | rest => isExponentPart rest

def Token.ofNumber (text : List Char) : Option Token :=
  let whole := text.takeWhile Char.isDigit
  let rest := text.dropWhile Char.isDigit
  match text with
  | '-' :: unsigned =>
      if isWholePart (unsigned.takeWhile Char.isDigit) &&
          isFractionPart (unsigned.dropWhile Char.isDigit) then
        some .otherNumber
      else none
  | _ =>
      if isWholePart whole then
        if rest.isEmpty then some (.natural (naturalOfDigits whole))
        else if isFractionPart rest then some .otherNumber
        else none
      else none

def Token.ofWord : List Char → Option Token
  | ['n', 'u', 'l', 'l'] => some .null
  | ['t', 'r', 'u', 'e'] => some (.boolean true)
  | ['f', 'a', 'l', 's', 'e'] => some (.boolean false)
  | _ => none

def hexDigitValue (digit : Char) : Option Nat :=
  if Text.isHexDigit digit then some (Text.digitValue digit) else none

inductive Piece where
  | character (value : Char)
  | unit (code : Nat)
deriving DecidableEq

def shortEscape : Char → Option Char
  | '"' => some '"'
  | '\\' => some '\\'
  | '/' => some '/'
  | 'b' => some '\x08'
  | 'f' => some '\x0c'
  | 'n' => some '\n'
  | 'r' => some '\r'
  | 't' => some '\t'
  | _ => none

def pieces : List Char → Option (List Piece)
  | [] => some []
  | '\\' :: 'u' :: first :: second :: third :: fourth :: rest => do
      let a ← hexDigitValue first
      let b ← hexDigitValue second
      let c ← hexDigitValue third
      let d ← hexDigitValue fourth
      let following ← pieces rest
      pure (.unit (((a * 16 + b) * 16 + c) * 16 + d) :: following)
  | '\\' :: escape :: rest => do
      let character ← shortEscape escape
      let following ← pieces rest
      pure (.character character :: following)
  | character :: rest =>
      if character == '\\' || character.toNat < 0x20 then none
      else do
        let following ← pieces rest
        pure (.character character :: following)

def isHighSurrogate (code : Nat) : Bool :=
  decide (0xD800 ≤ code) && decide (code < 0xDC00)

def isLowSurrogate (code : Nat) : Bool :=
  decide (0xDC00 ≤ code) && decide (code < 0xE000)

def joinPieces : List Piece → Option (List Char)
  | [] => some []
  | .unit high :: .unit low :: rest =>
      if isHighSurrogate high then
        if isLowSurrogate low then do
          let following ← joinPieces rest
          pure (Char.ofNat (0x10000 + (high - 0xD800) * 0x400 + (low - 0xDC00)) :: following)
        else none
      else if isLowSurrogate high then none
      else do
        let following ← joinPieces (.unit low :: rest)
        pure (Char.ofNat high :: following)
  | .unit code :: rest =>
      if isHighSurrogate code || isLowSurrogate code then none
      else do
        let following ← joinPieces rest
        pure (Char.ofNat code :: following)
  | .character character :: rest => do
      let following ← joinPieces rest
      pure (character :: following)

def Token.ofQuoted (quoted : List Char) : Option Token :=
  (pieces quoted).map fun parts => .text ((joinPieces parts).map String.ofList)

/-- What the last characters belong to. Characters are collected in reverse. -/
inductive Scan where
  | between
  | number (collected : List Char)
  | word (collected : List Char)
  | quoted (collected : List Char)
  | escaped (collected : List Char)
deriving DecidableEq

def Token.ofPunctuation : Char → Option Token
  | '\x7b' => some .openObject
  | '\x7d' => some .closeObject
  | '[' => some .openArray
  | ']' => some .closeArray
  | ':' => some .colon
  | ',' => some .comma
  | _ => none

def Scan.start (character : Char) : Option (List Token × Scan) :=
  if isBlank character then some ([], .between)
  else
    match Token.ofPunctuation character with
    | some token => some ([token], .between)
    | none =>
        if character == '"' then some ([], .quoted [])
        else if character == '-' || character.isDigit then some ([], .number [character])
        else if character.isLower then some ([], .word [character])
        else none

def continuesNumber (character : Char) : Bool :=
  character.isDigit || character == '.' || character == 'e' || character == 'E' ||
    character == '+' || character == '-'

def Scan.step : Scan → Char → Option (List Token × Scan)
  | between, character => start character
  | number collected, character =>
      if continuesNumber character then some ([], .number (character :: collected))
      else do
        let token ← Token.ofNumber collected.reverse
        let (tokens, scan) ← start character
        pure (token :: tokens, scan)
  | word collected, character =>
      if character.isLower then some ([], .word (character :: collected))
      else do
        let token ← Token.ofWord collected.reverse
        let (tokens, scan) ← start character
        pure (token :: tokens, scan)
  | quoted collected, character =>
      if character == '"' then do
        let token ← Token.ofQuoted collected.reverse
        pure ([token], .between)
      else if character == '\\' then some ([], .escaped (character :: collected))
      else some ([], .quoted (character :: collected))
  | escaped collected, character => some ([], .quoted (character :: collected))

def Scan.finish : Scan → Option (List Token)
  | between => some []
  | number collected => (Token.ofNumber collected.reverse).map ([·])
  | word collected => (Token.ofWord collected.reverse).map ([·])
  | quoted _ => none
  | escaped _ => none

/-- One character more, behind tokens that are complete. The tokens are in reverse. -/
def Scan.feed (state : List Token × Scan) (character : Char) : Option (List Token × Scan) := do
  let (tokens, scan) ← state.2.step character
  pure (tokens.reverse ++ state.1, scan)

def tokenize (text : List Char) : Option (List Token) := do
  let (tokens, scan) ← text.foldlM Scan.feed ([], .between)
  let final ← scan.finish
  pure (tokens.reverse ++ final)

end Enlistment.Json
