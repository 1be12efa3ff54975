import CheckScript.Source.Layout

/-!
# Diagnostics

How an error in a script is shown: what is wrong, the places it is about, and notes. The first label
marks the place of the error itself; further ones mark places that explain it.
-/

namespace CheckScript

/-- What a label marks. -/
inductive LabelStyle where
  | primary
  | secondary
  deriving DecidableEq, Repr

/-- A place in a file that a diagnostic is about. -/
structure Label where
  style : LabelStyle
  file : Nat
  span : Span
  message : String
  deriving DecidableEq, Repr

/-- An error as it is shown. -/
structure Diagnostic where
  message : String
  labels : List Label
  notes : List String
  deriving DecidableEq, Repr

namespace ParseError

/-- What is said about a structural error. -/
def message (_ : ParseError) : String := "line is indented less than the first line of the script"

/-- The place of the error: the line that is too shallow. -/
def span (error : ParseError) : Span := error.stray.span

/-- The place that explains the error: the first line, which sets the level. -/
def related (error : ParseError) : List (Span × String) :=
  [(error.first.span, "root indentation is set here")]

/-- The levels of the two lines. -/
def notes (error : ParseError) : List String :=
  ["the first line sits at indentation level " ++ toString error.first.indent
    ++ ", this line at level " ++ toString error.stray.indent]

/-- A structural error of a file as it is shown. -/
def diagnostic (error : ParseError) (file : Nat) : Diagnostic where
  message := error.message
  labels := ⟨.primary, file, error.span, ""⟩
    :: error.related.map fun (span, message) => ⟨.secondary, file, span, message⟩
  notes := error.notes

end ParseError

end CheckScript
