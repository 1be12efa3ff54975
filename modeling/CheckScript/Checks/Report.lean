import CheckScript.Checks.Suite
import CheckScript.Files.Tree
import CheckScript.Script

/-!
# Reports

The report of a suite has the result of every check under its name. A check that has no result,
because there is no one script to run or because the script fails, is reported with what went wrong;
one such check does not keep the others from being run.
-/

namespace CheckScript

open Files

/-- Why a check has no result. -/
inductive CheckError where
  | bothSources
  | noSource
  | unreadable (file : String) (error : FileError)
  | script (error : ScriptError)

/-- What is said about a check without a result. -/
def CheckError.message : CheckError → String
  | .bothSources => "check sets both `script` and `file`"
  | .noSource => "check sets neither `script` nor `file`"
  | .unreadable file error => "cannot read '" ++ file ++ "': " ++ error.message
  | .script error => error.message

/-- How a file that a check names is read. -/
abbrev SourceReader := String → Except FileError String

namespace Check

/-- The script of a check. -/
def source (check : Check) (read : SourceReader) : Except CheckError String :=
  match check.script, check.file with
  | some script, none => .ok script
  | none, some file => (read file).mapError (.unreadable file)
  | some _, some _ => .error .bothSources
  | none, none => .error .noSource

/-- Runs a check. -/
def run (check : Check) (read : SourceReader) (registry : Registry) : Except CheckError Value := do
  let source ← check.source read
  (runScript source registry check.inputValue).mapError .script

end Check

/-- The entry of a check in a report: its result, or what went wrong. -/
def reportEntry : Except CheckError Value → Json
  | .ok value => value.toJson
  | .error error => .object [("error", .text error.message)]

/-- What came of the checks of a suite. -/
structure Report where
  /-- The entry of each check, by its name. -/
  results : Dict Json
  /-- The number of checks without a result. -/
  failed : Nat

namespace Report

/-- The report on named results. -/
def ofResults (results : List (String × Except CheckError Value)) : Report where
  results := Dict.ofList (results.map fun (name, result) => (name, reportEntry result))
  failed := results.countP fun (_, result) => result.toOption.isNone

/-- The report as one JSON object. -/
def toJson (report : Report) : Json := .object report.results.entries

end Report

/-- Runs every check of a suite. -/
def Suite.run (suite : Suite) (read : SourceReader) (registry : Registry) : Report :=
  Report.ofResults (suite.checks.map fun check => (check.name, check.run read registry))

end CheckScript
