import Enlistment.Text.Ascii

/-!
Percent encoding: a character that may not stand for itself is written as the bytes of its encoding,
each as a percent sign and two uppercase hexadecimal digits. What may stand for itself depends on
the part of the URL; characters outside of ASCII never may.
-/

namespace Enlistment.Url

def isControl (character : Char) : Bool :=
  character.toNat < 0x20 || 0x7E < character.toNat

def inFragmentSet (character : Char) : Bool :=
  isControl character || [' ', '"', '<', '>', '\x60'].contains character

def inQuerySet (character : Char) : Bool :=
  isControl character || [' ', '"', '#', '<', '>'].contains character

def inSpecialQuerySet (character : Char) : Bool :=
  inQuerySet character || character == '\''

def inPathSet (character : Char) : Bool :=
  inFragmentSet character || ['#', '?', '\x7b', '\x7d'].contains character

def inUserInfoSet (character : Char) : Bool :=
  inPathSet character || ['/', ':', ';', '=', '@', '[', '\\', ']', '^', '|'].contains character

def hexPair (byte : UInt8) : List Char :=
  let digit (value : Nat) : Char := (Nat.digitChar value).toUpper
  [digit (byte.toNat / 16), digit (byte.toNat % 16)]

def percentEncodeCharacter (isEncoded : Char → Bool) (character : Char) : List Char :=
  if isEncoded character then
    (String.utf8EncodeChar character).flatMap fun byte => '%' :: hexPair byte
  else [character]

def percentEncode (isEncoded : Char → Bool) (text : List Char) : List Char :=
  text.flatMap (percentEncodeCharacter isEncoded)

/-- The bytes that a text stands for; a percent sign without two digits stands for itself. -/
def percentDecodedBytes : List Char → List UInt8
  | [] => []
  | '%' :: first :: second :: rest =>
      if Text.isHexDigit first && Text.isHexDigit second then
        UInt8.ofNat (Text.valueOf 16 [first, second]) :: percentDecodedBytes rest
      else 0x25 :: percentDecodedBytes (first :: second :: rest)
  | character :: rest => String.utf8EncodeChar character ++ percentDecodedBytes rest
termination_by text => text.length

def percentDecode? (text : List Char) : Option (List Char) :=
  (String.fromUTF8? (percentDecodedBytes text).toByteArray).map String.toList

end Enlistment.Url
