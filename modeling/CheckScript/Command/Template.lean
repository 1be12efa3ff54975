import CheckScript.Command.Arguments
import CheckScript.ValueJson

/-!
# Templates

A placeholder is a key between braces; a key is made of ASCII letters, digits, `_`, `.` and `-`, and
is not empty. `fill` replaces the placeholders of a template in one pass from left to right: what is
put in is not looked at again, and braces that do not enclose a key stay as they are.

The placeholder of the key `.` stands for the input of the step, any other for what the context
binds to its key, or for nothing.
-/

namespace CheckScript.Command.Template

/-- A character of a key. -/
def isKeyChar (c : Char) : Bool := c.isAlphanum || c == '_' || c == '.' || c == '-'

/-- Reads a key and the brace that closes it, from behind the opening brace. -/
def readKey? (cs : List Char) : Option (List Char × List Char) :=
  match cs.dropWhile isKeyChar with
  | [] => none
  | c :: rest =>
    if c = '\x7d' ∧ cs.takeWhile isKeyChar ≠ [] then some (cs.takeWhile isKeyChar, rest) else none

theorem length_of_readKey? {cs key rest : List Char} (h : readKey? cs = some (key, rest)) :
    rest.length < cs.length := by
  have hlen : (cs.dropWhile isKeyChar).length ≤ cs.length :=
    (List.dropWhile_sublist isKeyChar).length_le
  unfold readKey? at h
  split at h
  · simp at h
  · next hrest =>
    rw [hrest, List.length_cons] at hlen
    split at h
    · simp only [Option.some.injEq, Prod.mk.injEq] at h
      rw [← h.2]
      omega
    · simp at h

/-- Replaces the placeholders of a template. -/
def fill (meaning : List Char → List Char) : List Char → List Char
  | [] => []
  | c :: cs =>
    if c = '\x7b' then
      match _h : readKey? cs with
      | some (key, rest) => meaning key ++ fill meaning rest
      | none => c :: fill meaning cs
    else c :: fill meaning cs
termination_by cs => cs.length
decreasing_by
  · have := length_of_readKey? _h
    simp only [List.length_cons]
    omega
  · simp
  · simp

/-- What a key stands for. -/
def keyText (context : Context) (input : Value) (key : List Char) : List Char :=
  if key = ['.'] then input.display.toList
  else
    match context.get? (String.ofList key) with
    | some value => value.display.toList
    | none => []

end CheckScript.Command.Template
