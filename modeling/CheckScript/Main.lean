import CheckScript.Cli.Program

/-!
The entry point of the program. It reads the files that the request is about, lets the library do
the rest, prints and leaves.
-/

open CheckScript CheckScript.Files

/-- What is known of an error of the operating system. -/
def fileErrorOf : IO.Error → FileError
  | .noFileOrDirectory .. => .notFound
  | .inappropriateType _ code words => ofCode code words
  | .permissionDenied _ code words => ofCode code words
  | .resourceExhausted _ code words => ofCode code words
  | error => .other (toString error)
where
  ofCode (code : UInt32) (words : String) : FileError :=
    -- A code may come with its sign changed.
    let code := min code (0 - code)
    if code = 20 then .notDirectory
    else if code = 21 then .isDirectory
    else .other (words ++ " (os error " ++ toString code ++ ")")

/-- Reads a file, or a directory, with all that is below it if asked to. -/
partial def readNode (below : Bool) (path : String) : IO FileNode := do
  let here := System.mkFilePath [path]
  if ← here.isDir then
    if below then
      let entries ← here.readDir
      return .directory (← entries.toList.mapM fun entry => do
        return (entry.fileName, ← readNode below (joinPath path entry.fileName)))
    else return .directory []
  else return .file (← IO.FS.readBinFile here)

/-- What a path leads to, or why it leads nowhere. -/
def tryNode (below : Bool) (path : String) : IO (Except FileError FileNode) := do
  try return .ok (← readNode below path)
  catch error => return .error (fileErrorOf error)

/-- The view of the files at some paths. -/
def viewPaths (below : Bool) (paths : List String) : IO FileView := do
  let found ← paths.mapM fun path => do return (path, ← tryNode below path)
  return fun path => (found.lookup path).getD (.error .notFound)

/-- The view of the files that a request is about. -/
def viewFor (request : Cli.Request) : IO FileView := do
  let first ← viewPaths request.goesBelow request.path?.toList
  let named := request.namedPaths first
  if named.isEmpty then return first
  viewPaths false (request.path?.toList ++ named)

def main (arguments : List String) : IO UInt32 := do
  let output ← match Cli.Request.ofArguments arguments with
    | .ok request => do pure (Cli.perform Registry.builtin (← viewFor request) request)
    | .error halt => pure halt.output
  (← IO.getStdout).putStr output.stdout
  (← IO.getStderr).putStr output.stderr
  return output.exit.toUInt32
