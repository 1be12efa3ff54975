import CheckScript.Text.Blank
import CheckScript.Text.Bytes
import CheckScript.Text.Split

/-!
# Lines of a script

A line of a script is its trimmed text, the indentation level it stands at, and its place in the
source as a byte range. Blank lines are no lines.

## Levels

Two columns of indentation make one level; a tab is two columns wide and any other blank one.

## Commands and arguments

The first word of a line names its command; the other words, with one space between them, are the
argument. A line whose text starts with `#` is a comment.
-/

namespace CheckScript

open Text

/-- A range of bytes of the source: `start` included, `stop` not. -/
structure Span where
  start : Nat
  stop : Nat
  deriving DecidableEq, Repr

/-- A line of a script that is not blank. -/
structure Line where
  text : String
  indent : Nat
  span : Span
  deriving DecidableEq, Repr

/-! ## Indentation -/

/-- The columns a character of the indentation takes up. -/
def columnWidth (c : Char) : Nat := if c = '\t' then 2 else 1

/-- The columns a text takes up as indentation. -/
def columns : List Char → Nat
  | [] => 0
  | c :: cs => columnWidth c + columns cs

/-- The level of a line behind this indentation. -/
def indentLevel (leading : List Char) : Nat := columns leading / 2

theorem columns_append (cs ds : List Char) : columns (cs ++ ds) = columns cs + columns ds := by
  induction cs with
  | nil => simp [columns]
  | cons c cs ih => simp [columns, ih, Nat.add_assoc]

namespace Line

/-! ## The parts of a line -/

/-- Comment lines start with `#`. -/
def isComment (line : Line) : Bool := line.text.toList.head? == some '#'

/-- The words of the line. -/
def words (line : Line) : List (List Char) := Text.words line.text.toList

/-- The first word, which names the command; empty if there is no word. -/
def command (line : Line) : String := String.ofList (line.words.headD [])

/-- The words after the first, with one space between them; `none` if there are none. -/
def argument (line : Line) : Option String :=
  match line.words.tail with
  | [] => none
  | rest => some (String.ofList ([' '].intercalate rest))

/-- The place of the command in the source, for a text that starts with it. -/
def commandSpan (line : Line) : Span :=
  ⟨line.span.start, line.span.start + byteLength line.command.toList⟩

end Line

/-! ## The lines of a source -/

/-- The line that stands in `raw`, the text between two newlines that starts at byte `offset`;
`none` if it is blank. A carriage return at the end of `raw` belongs to the line ending. -/
def lineAt (offset : Nat) (raw : List Char) : Option Line :=
  let raw := stripLast '\r' raw
  let leading := raw.takeWhile isBlank
  match trimEnd (raw.dropWhile isBlank) with
  | [] => none
  | text =>
    let start := offset + byteLength leading
    some ⟨String.ofList text, indentLevel leading, ⟨start, start + byteLength text⟩⟩

/-- The lines that stand in consecutive raw lines, the first of which starts at byte `offset`. -/
def linesFrom (offset : Nat) : List (List Char) → List Line
  | [] => []
  | raw :: rest => (lineAt offset raw).toList ++ linesFrom (offset + byteLength raw + 1) rest

/-- The lines of a source, blank ones left out. -/
def sourceLines (source : String) : List Line :=
  linesFrom 0 (splitChar '\n' source.toList)

theorem linesFrom_append (offset : Nat) (raws more : List (List Char)) :
    linesFrom offset (raws ++ more)
      = linesFrom offset raws
        ++ linesFrom (raws.foldl (fun at_ raw => at_ + byteLength raw + 1) offset) more := by
  induction raws generalizing offset with
  | nil => rfl
  | cons raw raws ih => simp [linesFrom, ih]

end CheckScript
