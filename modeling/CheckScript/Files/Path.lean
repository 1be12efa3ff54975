import CheckScript.Text.Split

/-!
# Paths

A path is the names of directories and of a file with solidi between them. A path that starts with a
solidus is absolute.
-/

namespace CheckScript.Files

open Text

/-- Whether a path is absolute. -/
def isAbsolute (path : String) : Bool := path.toList.head? == some '/'

/-- The parts of a path between its solidi. -/
def parts (path : String) : List String := (splitChar '/' path.toList).map String.ofList

/-- The path of a file that is named from a directory. -/
def joinPath (directory file : String) : String :=
  if isAbsolute file || directory.isEmpty then file
  else if directory.toList.getLast? == some '/' then directory ++ file
  else directory ++ "/" ++ file

/-- The path of the directory that a file is in; empty for a name alone. -/
def parentPath (path : String) : String :=
  match parts path with
  | [] => ""
  | [_] => ""
  | names => if names.dropLast = [""] then "/" else "/".intercalate names.dropLast

/-- The name of a file, if its path ends with one. -/
def fileName? (path : String) : Option String :=
  ((parts path).filter fun part => part != "" && part != ".").getLast?.filter (· != "..")

end CheckScript.Files
