/-!
# Reading from the front of a text

A reader answers with what it read and with what is left of the text, which is shorter. The fact
travels with the answer (`Read.shorter`), so that readers built from readers end because of it.
-/

namespace CheckScript.Text

/-- Something read from the front of a text, and what is left of the text. -/
structure Read (α : Type) (cs : List Char) where
  value : α
  rest : List Char
  shorter : rest.length < cs.length

namespace Read

variable {α β : Type} {cs ds : List Char}

/-- What was read from the end of a text was read from the text. -/
def widen (r : Read α cs) (h : cs.length ≤ ds.length) : Read α ds :=
  ⟨r.value, r.rest, Nat.lt_of_lt_of_le r.shorter h⟩

/-- What was read, changed by a function. -/
def map (f : α → β) (r : Read α cs) : Read β cs := ⟨f r.value, r.rest, r.shorter⟩

/-- What was read behind something else. -/
def after (first : Read α cs) (r : Read β first.rest) : Read β cs :=
  r.widen (Nat.le_of_lt first.shorter)

/-- The answer of a reader that says no more than what it read and what it left; it counts only if
it left less than it was given. -/
def ofPair? (cs : List Char) : Option (α × List Char) → Option (Read α cs)
  | none => none
  | some (value, rest) => if h : rest.length < cs.length then some ⟨value, rest, h⟩ else none

end Read

end CheckScript.Text
