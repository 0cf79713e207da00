/-!
Characters of ASCII: text up to the case of the letters `A` to `Z`, hexadecimal digits of either case,
and bytes written as characters between single quotes.
-/

namespace Enlistment.Text

def asciiLowercase (text : String) : String :=
  String.ofList (text.toList.map Char.toLower)

def equalIgnoringAsciiCase (left right : List Char) : Bool :=
  left.map Char.toLower == right.map Char.toLower

def isHexDigit (character : Char) : Bool :=
  character.isDigit || ('a' ≤ character && character ≤ 'f') || ('A' ≤ character && character ≤ 'F')

def digitValue (character : Char) : Nat :=
  if character.isDigit then character.toNat - '0'.toNat
  else character.toLower.toNat - 'a'.toNat + 10

def valueOf (base : Nat) (digits : List Char) : Nat :=
  digits.foldl (fun value digit => value * base + digitValue digit) 0

def hexadecimal (value : Nat) : String :=
  String.ofList (Nat.toDigits 16 value)

def escapedByte (byte : UInt8) : String :=
  let code := byte.toNat
  match Char.ofNat code with
  | '\x00' => "\\0"
  | '\t' => "\\t"
  | '\n' => "\\n"
  | '\r' => "\\r"
  | '\'' => "\\'"
  | '\\' => "\\\\"
  | character =>
      -- the double quote stands as it is between single ones
      if code < 0x20 || (0x7F ≤ code && code ≤ 0xA0) || code == 0xAD then
        "\\u\x7b" ++ hexadecimal code ++ "\x7d"
      else String.singleton character

def quotedByte (byte : UInt8) : String :=
  "'" ++ escapedByte byte ++ "'"

end Enlistment.Text
