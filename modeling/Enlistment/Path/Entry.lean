import Enlistment.Text.Lowercase

/-!
Paths below the working directory. Entries use `/` between segments; an entry that names a folder
ends in one `/`, an entry that names a file in none. Two entries are the same when their case keys
are, and a folder entry covers every entry that lies below it.
-/

namespace Enlistment.Path

def separator : Char := '/'

def gitAttributes : String := ".gitattributes"

def trimSeparators (path : List Char) : List Char :=
  ((path.dropWhile (· == separator)).reverse.dropWhile (· == separator)).reverse

def normalizeEntry (path : String) (isFolder : Bool) : String :=
  let trimmed := trimSeparators path.toList
  String.ofList (if isFolder then trimmed ++ [separator] else trimmed)

def caseKey (entry : String) : String :=
  Text.lowercase entry

def segments (entry : List Char) : List (List Char) :=
  (entry.splitOn separator).filter (fun segment => !segment.isEmpty)

def foldersOnTheWay (above : List Char) : List (List Char) → List (List Char)
  | [] => []
  | [_] => []
  | segment :: next :: rest =>
      let folder := above ++ segment ++ [separator]
      folder :: foldersOnTheWay folder (next :: rest)

def ancestorFolders (entry : String) : List String :=
  (foldersOnTheWay [] (segments entry.toList)).map String.ofList

def isInsideDotGit (path : String) : Bool :=
  match path.toList with
  | first :: second :: third :: fourth :: next :: _ =>
      [first, second, third, fourth].map Char.toLower == ['.', 'g', 'i', 't'] && next == separator
  | _ => false

end Enlistment.Path
