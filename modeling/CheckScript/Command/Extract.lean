import CheckScript.Command.Arguments
import CheckScript.Pattern

/-!
# Extracting parts of a text

`extract pattern` looks for a pattern in its input. The shape of the answer is that of the pattern:

* with named groups, a record of their texts;
* without groups, the text of the match;
* with one group, its text;
* with several groups, the list of their texts.

A group that took no part in the match, and a text without a match, give the unit value.
-/

namespace CheckScript.Command

open Pattern

/-- The text of a group as a value. -/
def groupValue (found : Match) (text : List Char) (group : Nat) : Value :=
  match found.textOf? text group with
  | some part => .text (String.ofList part)
  | none => .unit

/-- The answer for a match. -/
def extracted (pattern : Pattern) (text : List Char) (found : Match) : Value :=
  if pattern.names.isEmpty then
    match pattern.groupCount with
    | 1 => groupValue found text 0
    | 2 => groupValue found text 1
    | count => .list ((List.range (count - 1)).map fun i => groupValue found text (i + 1))
  else
    .ofDict (.ofList (pattern.names.map fun (group, name) => (name, groupValue found text group)))

/-- `extract pattern`. -/
def extract : Factory := fun argument => do
  let written ← requireArgument "extract" argument
  match Pattern.ofText? written with
  | none => .error (.invalidArgument "extract" "not a pattern")
  | some pattern =>
    .ok (.attempt fun input => do
      let text ← expectText "extract" input
      return match pattern.find? text.toList with
        | some found => extracted pattern text.toList found
        | none => .unit)

end CheckScript.Command
