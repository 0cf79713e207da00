/-!
Lists as one text: every entry ends in a NUL character, and the characters that could not stand in
an entry on a line are written as a percent sign and two hexadecimal digits. A percent sign that
starts none of these is kept when a list is read.
-/

namespace Enlistment.Control

def escapeEntryCharacter : Char → List Char
  | '%' => ['%', '2', '5']
  | '\n' => ['%', '0', 'A']
  | '\r' => ['%', '0', 'D']
  | '\x00' => ['%', '0', '0']
  | character => [character]

def escapeEntry (entry : List Char) : List Char :=
  entry.flatMap escapeEntryCharacter

def unescapeEntry : List Char → List Char
  | '%' :: '2' :: '5' :: rest => '%' :: unescapeEntry rest
  | '%' :: '0' :: 'A' :: rest => '\n' :: unescapeEntry rest
  | '%' :: '0' :: 'a' :: rest => '\n' :: unescapeEntry rest
  | '%' :: '0' :: 'D' :: rest => '\r' :: unescapeEntry rest
  | '%' :: '0' :: 'd' :: rest => '\r' :: unescapeEntry rest
  | '%' :: '0' :: '0' :: rest => '\x00' :: unescapeEntry rest
  | character :: rest => character :: unescapeEntry rest
  | [] => []

def joinList (entries : List String) : String :=
  String.ofList (entries.flatMap fun entry => escapeEntry entry.toList ++ ['\x00'])

def splitList (payload : String) : List String :=
  ((payload.toList.splitOn '\x00').filter (fun entry => !entry.isEmpty)).map fun entry =>
    String.ofList (unescapeEntry entry)

end Enlistment.Control
