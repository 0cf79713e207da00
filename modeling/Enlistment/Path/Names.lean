/-!
Paths of files as text, and the names in them. Joining adds one separator where there is none. Doubled
separators and single dots lead nowhere; double dots lead up, but only from a folder that is there, so
they are kept among the names.
-/

namespace Enlistment.Path

def isAbsolute (path : String) : Bool :=
  path.toList.head? == some '/'

def join (folder path : String) : String :=
  -- an absolute path stands for itself
  if isAbsolute path || folder.isEmpty then path
  else if folder.toList.getLast? = some '/' then folder ++ path
  else folder ++ "/" ++ path

def parts (path : String) : List String :=
  (path.toList.splitOn '/').map String.ofList

def names (path : String) : List String :=
  (parts path).filter fun part => !part.isEmpty && part != "."

def endsInFolder (path : String) : Bool :=
  (parts path).getLast?.any fun part => part.isEmpty || part == "."

def parent? (path : String) : Option String :=
  match names path with
  | [] => if path.isEmpty || isAbsolute path then none else some ""
  | name :: more =>
      some ((if isAbsolute path then "/" else "") ++ "/".intercalate (name :: more).dropLast)

end Enlistment.Path
