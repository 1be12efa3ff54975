import CheckScript.Pattern.Search
import CheckScript.Pattern.Size

/-!
# Patterns

A pattern is read from its text once (`Pattern.ofText?`) and then looked for in texts
(`Pattern.find?`). A text that cannot be read, that has no meaning, or which is too large, is no
pattern.

Groups are numbered from 1 by their opening parentheses; group 0 is the whole match.
-/

namespace CheckScript

/-- A pattern that can be looked for. -/
structure Pattern where
  program : Pattern.Program
  /-- The number of the last group, and one more for the whole match. -/
  groupCount : Nat
  /-- The groups that have a name. -/
  names : List (Nat × String)

namespace Pattern

/-- The pattern that a text writes. -/
def ofText? (text : String) : Option Pattern := do
  let regex ← (← Expr.read? text.toList).toRegex?
  if regex.fits then
    some {
      program := regex.program
      groupCount := regex.groups.foldr (fun group count => max (group.1 + 1) count) 1
      names := regex.groups.filterMap fun group => group.2.map fun name => (group.1, name) }
  else none

/-- The leftmost match of the pattern in a text. -/
def find? (pattern : Pattern) (text : List Char) : Option Match := pattern.program.search text

/-- The part of a text between two places. -/
def slice (text : List Char) (span : Nat × Nat) : List Char :=
  (text.drop span.1).take (span.2 - span.1)

/-- The text of a group, if it took part in the match; group 0 is the whole match. -/
def Match.textOf? (found : Match) (text : List Char) (group : Nat) : Option (List Char) :=
  (if group = 0 then some (found.start, found.stop) else found.group? group).map (slice text)

end Pattern

end CheckScript
