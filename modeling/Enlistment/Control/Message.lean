/-!
Messages of the control protocol: a header, and a body that is not empty where there is one. A
message is written on one line, with a bar between its parts. The header of a request names what is
asked for.
-/

namespace Enlistment.Control

structure Message where
  header : String
  body : Option String
deriving DecidableEq

namespace Message

def headerOnly (header : String) : Message :=
  ⟨header, none⟩

def isLineEnd (character : Char) : Bool :=
  character == '\r' || character == '\n'

def trimLineEnd (line : List Char) : List Char :=
  (line.reverse.dropWhile isLineEnd).reverse

def ofCharacters (line : List Char) : Message :=
  let header := String.ofList (line.takeWhile (· != '|'))
  match line.dropWhile (· != '|') with
  | _ :: first :: rest => ⟨header, some (String.ofList (first :: rest))⟩
  | _ => ⟨header, none⟩

def fromLine (line : String) : Message :=
  ofCharacters (trimLineEnd line.toList)

def toLine (message : Message) : String :=
  match message.body with
  | some body => message.header ++ "|" ++ body
  | none => message.header

end Message

namespace Request

def getStatus : String := "GetStatus"

def unmount : String := "Unmount"

def acquireLock : String := "AcquireLock"

def releaseLock : String := "ReleaseLock"

def downloadObject : String := "DLO"

def modifiedPaths : String := "MPL"

def postFetch : String := "PostFetch"

def modifiedPathsVersion : String := "1"

end Request

end Enlistment.Control
