import CheckScript.Tests.Header
import CheckScript.Text.Split

/-!
# Test files

A test file is a header between two delimiters, and a script. The first line is the delimiter alone;
the header ends at the first line that starts with one, and the script follows it, on the same line
or on the next. Byte-order marks in front of all that are ignored.
-/

namespace CheckScript

open Text

/-- Why a text is no test file. -/
inductive TestFileError where
  | notOpened
  | notClosed
  | header (error : Toml.DecodeError)
  deriving DecidableEq, Repr

/-- What is said about a text that is no test file. -/
def TestFileError.message : TestFileError → String
  | .notOpened => "missing opening --- frontmatter delimiter"
  | .notClosed => "missing closing --- frontmatter delimiter"
  | .header error => error.message

/-- A test file. -/
structure TestFile where
  header : TestHeader
  source : String

namespace TestFile

/-- What stands before and after a header. -/
def delimiter : List Char := ['-', '-', '-']

/-- The text without the byte-order marks at its start. -/
def dropMarks (cs : List Char) : List Char := cs.dropWhile (· == '\uFEFF')

/-- The text after a line ending at its start. -/
def stripLineEnding? : List Char → Option (List Char)
  | '\n' :: cs => some cs
  | '\r' :: '\n' :: cs => some cs
  | _ => none

/-- The text without the carriage returns at its end. -/
def dropReturns (cs : List Char) : List Char := (cs.reverse.dropWhile (· == '\r')).reverse

/-- The texts of the header and of the script. -/
def split (cs : List Char) : Except TestFileError (List Char × List Char) :=
  match (stripPrefix? delimiter (dropMarks cs)).bind stripLineEnding? with
  | none => .error .notOpened
  | some body =>
    match breakOn? ('\n' :: delimiter) body with
    | none => .error .notClosed
    | some (header, rest) => .ok (dropReturns header, (stripLineEnding? rest).getD rest)

/-- The test file that a text writes. -/
def ofText (text : String) : Except TestFileError TestFile := do
  let (header, source) ← split text.toList
  let header ← (TestHeader.ofText (String.ofList header)).mapError .header
  return ⟨header, String.ofList source⟩

end TestFile

end CheckScript
