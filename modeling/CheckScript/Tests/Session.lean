import CheckScript.Tests.Discovery
import CheckScript.Tests.File
import CheckScript.Tests.Verdict

/-!
# Test sessions

A session runs the tests at a path: the file there, or the tests of the directory there that are
asked for. It records what came of each of them, by category. It succeeds if at least one test was
run and none failed (`TestSession.succeeded`).
-/

namespace CheckScript

open Files

/-- Why the test in a file counts as failed. -/
inductive TestComplaint where
  | unreadable (error : FileError)
  | noTest (error : TestFileError)
  | failed (failure : TestFailure)

/-- What is said about a failed test in a file. -/
def TestComplaint.message : TestComplaint → String
  | .unreadable error => "cannot read file: " ++ error.message
  | .noTest error => "frontmatter error: " ++ error.message
  | .failed failure => failure.message

/-- What came of the test in a file. -/
structure TestResult where
  path : String
  description : Option String
  /-- Why the test failed, if it did. -/
  complaint : Option TestComplaint

namespace TestResult

/-- Whether the test passed. -/
def passed (result : TestResult) : Bool := result.complaint.isNone

/-- What the test is called: its description, or else the name of its file without the suffix. -/
def label (result : TestResult) : String :=
  match result.description, fileName? result.path with
  | some description, _ => description
  | none, none => "?"
  | none, some name =>
    match testSuffix.toList.reverse with
    | [] => name
    | c :: cs => String.ofList (Text.dropCopies c cs name.toList.reverse).reverse

end TestResult

/-- Runs the test that a file holds, if the file can be read. -/
def runTest (registry : Registry) (path : String) (text : Except FileError String) : TestResult :=
  match text with
  | .error error => ⟨path, none, some (.unreadable error)⟩
  | .ok text =>
    match TestFile.ofText text with
    | .error error => ⟨path, none, some (.noTest error)⟩
    | .ok ⟨header, source⟩ =>
      ⟨path, header.description, (header.verdict source registry).map .failed⟩

/-- What came of the tests at a path. -/
structure TestSession where
  path : String
  /-- The categories of the tests at the path. -/
  available : List String
  /-- The categories that were asked for and are not there. -/
  unknown : List String
  /-- The results of the tests that were run, by category. -/
  groups : List (String × List TestResult)

namespace TestSession

/-- The results of all tests that were run. -/
def results (session : TestSession) : List TestResult := session.groups.flatMap (·.2)

/-- The number of passed tests. -/
def passedCount (session : TestSession) : Nat := session.results.countP TestResult.passed

/-- The results of the tests that failed. -/
def failures (session : TestSession) : List TestResult :=
  session.results.filter fun result => !result.passed

/-- Whether a test was run, and none failed. -/
def succeeded (session : TestSession) : Bool :=
  !session.results.isEmpty && session.failures.isEmpty

end TestSession

/-- The categories of tests, each with its tests. -/
def byCategory (tests : List FoundTest) : List (String × List FoundTest) :=
  groupBy FoundTest.category tests

/-- Runs the tests of a directory that are asked for. -/
def runDirectory (registry : Registry) (path : String) (root : FileNode) (asked : List String) :
    TestSession :=
  let tests := orderedTests root
  let available := (byCategory tests).map (·.1)
  { path
    available
    unknown := (asked.filter fun request => !available.any (requests · request)).map trimRequest
    groups := (byCategory (tests.filter fun test => isRequested asked test.category)).map
      fun (category, tests) => (category, tests.map fun test =>
        runTest registry (test.path path) (FileNode.file test.bytes).text) }

/-- Runs the tests at a path. A single file is a test whatever its name, and of no category. -/
def runTests (registry : Registry) (files : FileView) (path : String) (asked : List String) :
    TestSession :=
  match files path with
  | .ok (.file bytes) =>
    { path
      available := [""]
      unknown := []
      groups := [("", [runTest registry path (FileNode.file bytes).text])] }
  | .ok root => runDirectory registry path root asked
  | .error _ => { path, available := [], unknown := [], groups := [] }

/-! ## Listing -/

/-- What there is to test at a path. -/
inductive TestListing where
  | singleFile
  /-- The categories with the numbers of their tests. -/
  | categories (counts : List (String × Nat))

/-- Lists the categories of the tests at a path. -/
def listTests (files : FileView) (path : String) : TestListing :=
  match files path with
  | .ok (.file _) => .singleFile
  | .ok root =>
    .categories ((byCategory (orderedTests root)).map fun (category, tests) =>
      (category, tests.length))
  | .error _ => .categories []

end CheckScript
