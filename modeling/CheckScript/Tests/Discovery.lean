import CheckScript.Files.Tree

/-!
# Test files in a tree

The test files of a directory are the files at any depth below it whose names end in `.test.kmd`.
The category of a test is the way from the directory to it, and a request for a category also
selects the categories below it.

Tests are put in the order of their categories, and within a category in the order of their paths
(`orderedTests`).
-/

namespace CheckScript

open Files

/-- How the name of a test file ends. -/
def testSuffix : String := ".test.kmd"

/-- A test file that was found in a directory. -/
structure FoundTest where
  /-- The directories on the way to it. -/
  directories : List String
  name : String
  bytes : ByteArray

namespace FoundTest

/-- The names on the way to a test, its own the last. -/
def names (test : FoundTest) : List String := test.directories ++ [test.name]

/-- The path of a test in a directory with this path. -/
def path (root : String) (test : FoundTest) : String := test.names.foldl joinPath root

/-- The category of a test: its directories with solidi between them; a backslash counts as one. -/
def category (test : FoundTest) : String :=
  ("/".intercalate test.directories).map fun c => if c = '\\' then '/' else c

/-- Whether some names come before others, compared one after the other, or are the same. -/
def namesPrecede : List String → List String → Bool
  | [], _ => true
  | _ :: _, [] => false
  | a :: as, b :: bs => if a = b then namesPrecede as bs else a < b

/-- Whether a test comes before another one, or is the same. -/
def precedes (a b : FoundTest) : Bool :=
  if a.category = b.category then namesPrecede a.names b.names else a.category < b.category

end FoundTest

/-! ## Finding -/

/-- Whether a file of this name is a test. -/
def isTestName (name : String) : Bool := testSuffix.toList.isSuffixOf name.toList

mutual

/-- The tests at an entry of a directory. -/
def testsAt (directories : List String) (name : String) : FileNode → List FoundTest
  | .file bytes => if isTestName name then [⟨directories, name, bytes⟩] else []
  | .directory entries => testsIn (directories ++ [name]) entries

/-- The tests at the entries of a directory. -/
def testsIn (directories : List String) : List (String × FileNode) → List FoundTest
  | [] => []
  | (name, node) :: entries => testsAt directories name node ++ testsIn directories entries

end

/-- The tests of a directory, in order. -/
def orderedTests : FileNode → List FoundTest
  | .file _ => []
  | .directory entries => (testsIn [] entries).mergeSort FoundTest.precedes

/-! ## Selecting -/

/-- A request without the solidi at its ends. -/
def trimRequest (request : String) : String :=
  let dropSolidi (cs : List Char) := cs.dropWhile (· == '/')
  String.ofList (dropSolidi (dropSolidi request.toList).reverse).reverse

/-- Whether a request is for a category, or for one above it. -/
def requests (category request : String) : Bool :=
  let asked := trimRequest request
  category == asked || (asked.toList ++ ['/']).isPrefixOf category.toList

/-- Whether the tests of a category are to be run: without requests, all are. -/
def isRequested (asked : List String) (category : String) : Bool :=
  asked.isEmpty || asked.any (requests category)

/-! ## Grouping -/

/-- Puts a category's item in front of the groups after it. -/
def consGroup (category : String) (item : α) : List (String × List α) → List (String × List α)
  | [] => [(category, [item])]
  | (next, items) :: groups =>
    if category = next then (next, item :: items) :: groups
    else (category, [item]) :: (next, items) :: groups

/-- The groups of neighbours that are of one category. -/
def groupBy (category : α → String) : List α → List (String × List α)
  | [] => []
  | item :: items => consGroup (category item) item (groupBy category items)

end CheckScript
