import CheckScript.Files.Path
import CheckScript.Text.Bytes

/-!
# File trees

A file system as a tree: a directory has entries, and a file has bytes. A path is looked up from the
working directory, which is the root of the tree (`FileNode.lookup`). There are no links, and
nothing but directories is known of what is outside of the tree.

What can go wrong is a `FileError`; `FileError.message` words it as the operating system does.
-/

namespace CheckScript.Files

/-- Why a file cannot be read. -/
inductive FileError where
  | notFound
  | notDirectory
  | isDirectory
  | nameTooLong
  | nameWithNul
  | notText
  /-- Another error of the operating system. -/
  | other (words : String)
  deriving DecidableEq, Repr

/-- What is said about a file that cannot be read. -/
def FileError.message : FileError → String
  | .notFound => "No such file or directory (os error 2)"
  | .notDirectory => "Not a directory (os error 20)"
  | .isDirectory => "Is a directory (os error 21)"
  | .nameTooLong => "File name too long (os error 36)"
  | .nameWithNul => "file name contained an unexpected NUL byte"
  | .notText => "stream did not contain valid UTF-8"
  | .other words => words

/-- A file or a directory. -/
inductive FileNode where
  | file (bytes : ByteArray)
  | directory (entries : List (String × FileNode))
  deriving Inhabited

namespace FileNode

/-- The longest name, in bytes. -/
def maxNameLength : Nat := 255

/-- The entry of a name. -/
def entry? (name : String) : List (String × FileNode) → Option FileNode
  | [] => none
  | (other, node) :: entries => if other = name then some node else entry? name entries

/-- Goes along the parts of a path from a node; `above` are the directories around the node, the
innermost first. -/
def walk (above : List FileNode) (node : FileNode) : List String → Except FileError FileNode
  | [] => .ok node
  | part :: parts =>
    match node with
    | .file _ => .error .notDirectory
    | .directory entries =>
      if part = "" ∨ part = "." then walk above node parts
      else if part = ".." then
        match above with
        | [] => walk [] (.directory []) parts
        | parent :: above => walk above parent parts
      else if maxNameLength < part.utf8ByteSize then .error .nameTooLong
      else
        match entry? part entries with
        | none => .error .notFound
        | some inner => walk (node :: above) inner parts

/-- What a path leads to. -/
def lookup (root : FileNode) (path : String) : Except FileError FileNode :=
  if path.toList.contains '\x00' then .error .nameWithNul
  else if path.isEmpty then .error .notFound
  else if isAbsolute path then walk [] (.directory []) (parts path)
  else walk [] root (parts path)

/-- The bytes of a file as a text. -/
def text : FileNode → Except FileError String
  | .directory _ => .error .isDirectory
  | .file bytes =>
    match String.fromUTF8? bytes with
    | some s => .ok s
    | none => .error .notText

/-- Puts a node at a path, with the directories it needs. -/
def place (new : FileNode) : List String → List (String × FileNode) → List (String × FileNode)
  | [], entries => entries
  | part :: parts, entries =>
    let inner := match entry? part entries with
      | some (.directory inner) => inner
      | _ => []
    let node := if parts.isEmpty then new else .directory (place new parts inner)
    entries.filter (·.1 != part) ++ [(part, node)]

/-- The tree of files and empty directories with these paths. -/
def ofPaths (files : List (String × FileNode)) : FileNode :=
  .directory (files.foldl (fun entries file => place file.2 (parts file.1) entries) [])

end FileNode

/-- The files that a program sees: what each path leads to. -/
abbrev FileView := String → Except FileError FileNode

namespace FileView

/-- The text of the file at a path. -/
def readText (files : FileView) (path : String) : Except FileError String :=
  (files path).bind FileNode.text

end FileView

end CheckScript.Files
