import CheckScript.Checks.Report
import CheckScript.Cli.Request
import CheckScript.Command.Builtin
import CheckScript.Source.Outline
import CheckScript.Tests.Display

/-!
# The program

What the program prints for a request, and its exit code: 0 if all went well, 1 if something went
wrong with a script, a test or a check, and 2 if the command line is wrong. The files are given as
what each path leads to.
-/

namespace CheckScript.Cli

open Files

/-- What a run of the program leaves. -/
structure Output where
  exit : Nat
  stdout : String
  stderr : String
  deriving DecidableEq, Repr

namespace Output

/-- Lines, each with its end. -/
def unlines (lines : List String) : String := lines.foldr (fun line rest => line ++ "\n" ++ rest) ""

/-- All went well, and there is something to print. -/
def printed (stdout : String) : Output := ⟨0, stdout, ""⟩

/-- Something went wrong. -/
def failure (lines : List String) : Output := ⟨1, "", unlines lines⟩

/-- Some text on a line of its own. -/
def line (s : String) : String := s ++ "\n"

end Output

/-! ## Scripts -/

/-- What is said about a file that cannot be read. -/
def cannotRead (file : String) (error : FileError) : String :=
  "error: cannot read '" ++ file ++ "': " ++ error.message

/-- The lines that show an error in a script. -/
def diagnosticLines (file : String) (diagnostic : Diagnostic) : List String :=
  ("error: " ++ diagnostic.message)
    :: (diagnostic.labels.map fun label =>
      "  at " ++ file ++ ":" ++ toString label.span.start ++ ".." ++ toString label.span.stop
        ++ (if label.message.isEmpty then "" else ": " ++ label.message))
    ++ diagnostic.notes.map fun note => "  note: " ++ note

/-- Says what is wrong with a script. -/
def scriptFailure (file : String) (error : ScriptError) : Output :=
  .failure ((error.diagnostics 0).flatMap (diagnosticLines file))

/-- The value that a script is run on. -/
def RunInput.value? : RunInput → Option Value
  | .nothing => some .unit
  | .text s => some (.text s)
  | .json written => Value.parseJson? written

/-- Runs a compiled script. -/
def execute (step : Step) (input : RunInput) (asJson : Bool) : Output :=
  match input.value? with
  | none => .failure ["error: invalid --input-json: malformed JSON"]
  | some input =>
    match step.result input with
    | .ok value => .printed (Output.line (if asJson then value.displayPretty else value.display))
    | .error error => .failure ["runtime error: " ++ error.message]

/-- What is done with a script. -/
def runSource (registry : Registry) (file source : String) : RunGoal → Output
  | .outline =>
    match parse source 0 with
    | .ok script => .printed (Output.line script.outline)
    | .error error => scriptFailure file (.parse error)
  | .compile =>
    match CheckScript.compile source registry with
    | .ok _ => ⟨0, "", Output.line ("ok: " ++ file ++ " compiled successfully")⟩
    | .error error => scriptFailure file error
  | .execute input asJson =>
    match CheckScript.compile source registry with
    | .ok step => execute step input asJson
    | .error error => scriptFailure file error

/-- What is done with the script in a file. -/
def runFile (registry : Registry) (files : FileView) (file : String) (goal : RunGoal) : Output :=
  match files.readText file with
  | .ok source => runSource registry file source goal
  | .error error => .failure [cannotRead file error]

/-! ## Tests and checks -/

/-- What is done with tests. -/
def runTestGoal (registry : Registry) (files : FileView) (path : String) (colored : Bool) :
    TestGoal → Output
  | .listCategories => ⟨0, "", Output.unlines ((listTests files path).lines path)⟩
  | .run categories =>
    let session := runTests registry files path categories
    ⟨if session.succeeded then 0 else 1, "", Output.unlines (session.lines colored)⟩

/-- The path of a file that a suite names. -/
def besideSuite (suite file : String) : String := joinPath (parentPath suite) file

/-- What is said when some of the checks of a suite failed. -/
def failedChecks (failed total : Nat) : List String :=
  if failed = 0 then [] else [toString failed ++ " of " ++ toString total ++ " checks failed"]

/-- Runs the suite in a file. -/
def runSuiteFile (registry : Registry) (files : FileView) (path : String) (pretty : Bool) :
    Output :=
  match files.readText path with
  | .error error => .failure [cannotRead path error]
  | .ok text =>
    match Suite.ofText text with
    | .error error => .failure ["error: " ++ error.message]
    | .ok suite =>
      let report := suite.run (fun file => files.readText (besideSuite path file)) registry
      let json := if pretty then report.toJson.pretty else report.toJson.compact
      { exit := if report.failed = 0 then 0 else 1
        stdout := Output.line (String.ofList json)
        stderr := Output.unlines (failedChecks report.failed suite.checks.length) }

/-! ## Requests -/

/-- What the program does for a request. -/
def perform (registry : Registry) (files : FileView) : Request → Output
  | .run file goal => runFile registry files file goal
  | .test path goal colored => runTestGoal registry files path colored goal
  | .checks suite pretty => runSuiteFile registry files suite pretty
  | .commands => .printed registry.listing

/-- The path that a request starts from. -/
def Request.path? : Request → Option String
  | .run file _ => some file
  | .test path _ _ => some path
  | .checks suite _ => some suite
  | .commands => none

/-- Whether a request is about all that is below its path. -/
def Request.goesBelow : Request → Bool
  | .test .. => true
  | _ => false

/-- The paths of the files that are named by the file at the path of a request. -/
def Request.namedPaths (files : FileView) : Request → List String
  | .checks path _ =>
    match (files.readText path).toOption.map Suite.readChecks with
    | some (.ok listed) => listed.filterMap fun check => check.file.map (besideSuite path)
    | _ => []
  | _ => []

/-- The name of the program and its version. -/
def versionLine : String := "kmd 0.1.0"

/-- How the program is used. -/
def usageLines : List String := [
  "Usage: kmd [OPTIONS] <COMMAND>",
  "",
  "Commands:",
  "  run <FILE>      run a script, or check it with --check, or show it with --ast",
  "  test <PATH>     run a test file or the test files of a directory",
  "  checks <SUITE>  run a suite of checks and print their results as JSON",
  "  commands        list the commands that scripts can use",
  "  help            show this text"]

/-- What the program does when there is no request. -/
def Halt.output : Halt → Output
  | .help => .printed (Output.unlines usageLines)
  | .version => .printed (Output.line versionLine)
  | .usage error => ⟨2, "", Output.unlines (("error: " ++ error.message) :: usageLines)⟩

/-- What the program does. -/
def run (files : FileView) (arguments : List String) : Output :=
  match Request.ofArguments arguments with
  | .ok request => perform Registry.builtin files request
  | .error halt => halt.output

end CheckScript.Cli
