import CheckScript.Tests.Session

/-!
# Showing test sessions

A session is shown line by line: the tests of each category under its name, then the failed tests
with what is wrong with them, then the counts.
-/

namespace CheckScript

/-- What a part of the output stands for, as its colour tells. -/
inductive Paint where
  | heading
  | good
  | bad

/-- The code that switches a colour on in a terminal. -/
def Paint.code : Paint → String
  | .heading => "1"
  | .good => "32"
  | .bad => "31"

/-- A text in a colour, if there are colours. -/
def Paint.apply (paint : Paint) (colored : Bool) (s : String) : String :=
  if colored then "\x1b[" ++ paint.code ++ "m" ++ s ++ "\x1b[0m" else s

/-- A category as it is shown. -/
def shownCategory (category : String) : String :=
  if category.isEmpty then "(root)" else category

/-- What is said when there are no tests at a path. -/
def noTestsAt (path : String) : String := "no " ++ testSuffix ++ " files found in " ++ path

/-- The lines that list the categories of the tests at a path. -/
def TestListing.lines (path : String) : TestListing → List String
  | .singleFile => ["(single file, no categories)"]
  | .categories [] => [noTestsAt path]
  | .categories counts =>
    "available categories:" :: counts.map fun (category, count) =>
      "  " ++ shownCategory category ++ " (" ++ toString count ++ " tests)"

namespace TestResult

/-- The line that says how a test went. -/
def line (colored : Bool) (result : TestResult) : String :=
  let mark :=
    if result.passed then Paint.good.apply colored "PASS" else Paint.bad.apply colored "FAIL"
  "  " ++ mark ++ "  " ++ result.label

/-- The lines that say what is wrong with a failed test. -/
def details (result : TestResult) : List String :=
  let message := (result.complaint.map TestComplaint.message).getD ""
  "" :: ("  --- " ++ result.path ++ " ---")
    :: (Text.displayLines message.toList).map fun line => "  " ++ String.ofList line

end TestResult

namespace TestSession

/-- The warnings about categories that are not there. -/
def warnings (session : TestSession) : List String :=
  session.unknown.map fun category =>
    "warning: category '" ++ category ++ "' not found (available: "
      ++ ", ".intercalate (session.available.map shownCategory) ++ ")"

/-- The lines of the tests of each category. -/
def groupLines (colored : Bool) (session : TestSession) : List String :=
  session.groups.flatMap fun (category, results) =>
    "" :: Paint.heading.apply colored (shownCategory category) :: results.map (·.line colored)

/-- The lines about the failed tests. -/
def failureLines (session : TestSession) : List String :=
  if session.failures.isEmpty then []
  else "" :: "failures:" :: session.failures.flatMap TestResult.details

/-- The lines with the counts. -/
def countLines (colored : Bool) (session : TestSession) : List String :=
  let passed := session.passedCount
  let failed := session.failures.length
  let counts := toString passed ++ " passed, " ++ toString failed ++ " failed"
  ["", "test result: "
    ++ if failed = 0 then Paint.good.apply colored "ok" ++ ". " ++ counts
      else Paint.bad.apply colored "FAILED" ++ ". " ++ counts
        ++ " (of " ++ toString (passed + failed) ++ ")"]

/-- All lines of a session. -/
def lines (colored : Bool) (session : TestSession) : List String :=
  if session.available.isEmpty then [noTestsAt session.path]
  else session.warnings
    ++ if session.groups.isEmpty then ["no matching categories found"]
      else session.groupLines colored ++ session.failureLines ++ session.countLines colored

end TestSession

end CheckScript
