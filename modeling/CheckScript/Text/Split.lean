/-!
# Cutting texts at separators

## Contents

* `stripPrefix?`, `stripLast`, `dropCopies`: the ends of a text taken off.
* `splitChar`: cut at every occurrence of one character; `splitOn`: at the leftmost occurrences of
  a separator, without overlaps; `splitEverywhere`: around every character.
* `breakOn?`: the two sides of the first occurrence of a separator.
* `occursIn`: whether one text is a contiguous part of another.
* `displayLines`: the lines of a text as they are shown, line endings taken off.

`splitOn` takes its separator as a first character and the rest, so that it is never empty. It needs
no fuel: what is left after a separator is shorter (`length_of_stripPrefix?`).
-/

namespace CheckScript.Text

/-! ## Prefixes and suffixes -/

/-- What follows `pre`, if the text starts with it. -/
def stripPrefix? : List Char → List Char → Option (List Char)
  | [], cs => some cs
  | _ :: _, [] => none
  | p :: ps, c :: cs => if p = c then stripPrefix? ps cs else none

theorem stripPrefix?_append (pre cs : List Char) : stripPrefix? pre (pre ++ cs) = some cs := by
  induction pre with
  | nil => rfl
  | cons p ps ih => simp [stripPrefix?, ih]

/-- **A prefix that was taken off can be put back.** -/
theorem eq_append_of_stripPrefix? : ∀ {pre cs rest : List Char},
    stripPrefix? pre cs = some rest → cs = pre ++ rest
  | [], cs, rest, h => by simpa [stripPrefix?] using h
  | _ :: _, [], _, h => by simp [stripPrefix?] at h
  | p :: ps, c :: cs, rest, h => by
    rw [stripPrefix?] at h
    split at h
    · next hp => rw [hp, eq_append_of_stripPrefix? h]; rfl
    · simp at h

theorem length_of_stripPrefix? {pre cs rest : List Char} (h : stripPrefix? pre cs = some rest) :
    cs.length = pre.length + rest.length := by
  rw [eq_append_of_stripPrefix? h, List.length_append]

/-- The text without one `c` at its end, if there is one. -/
def stripLast (c : Char) : List Char → List Char
  | [] => []
  | [d] => if d = c then [] else [d]
  | d :: e :: cs => d :: stripLast c (e :: cs)

theorem stripLast_append_singleton (c : Char) (cs : List Char) : stripLast c (cs ++ [c]) = cs := by
  induction cs with
  | nil => simp [stripLast]
  | cons d ds ih => cases ds <;> simp_all [stripLast]

/-- The text without all the copies of `s :: ss` at its start. -/
def dropCopies (s : Char) (ss cs : List Char) : List Char :=
  match _h : stripPrefix? (s :: ss) cs with
  | some rest => dropCopies s ss rest
  | none => cs
termination_by cs.length
decreasing_by
  have := length_of_stripPrefix? _h
  simp at this
  omega

/-! ## Pieces -/

/-- Puts `c` in front of the first piece. -/
def consPiece (c : Char) : List (List Char) → List (List Char)
  | [] => [[c]]
  | p :: ps => (c :: p) :: ps

/-- The pieces between the occurrences of the character `sep`; always at least one. -/
def splitChar (sep : Char) : List Char → List (List Char)
  | [] => [[]]
  | c :: cs => if c = sep then [] :: splitChar sep cs else consPiece c (splitChar sep cs)

/-- The pieces between the leftmost non-overlapping occurrences of the separator `s :: ss`;
always at least one. -/
def splitOn (s : Char) (ss : List Char) : List Char → List (List Char)
  | [] => [[]]
  | c :: cs =>
    match _h : stripPrefix? (s :: ss) (c :: cs) with
    | some rest => [] :: splitOn s ss rest
    | none => consPiece c (splitOn s ss cs)
termination_by cs => cs.length
decreasing_by
  · have := length_of_stripPrefix? _h
    simp at this ⊢
    omega
  · simp

/-- One piece for each character, between two empty pieces. -/
def splitEverywhere (cs : List Char) : List (List Char) :=
  [] :: (cs.map ([·]) ++ [[]])

/-- The texts before and after the first occurrence of `sep`. -/
def breakOn? (sep : List Char) : List Char → Option (List Char × List Char)
  | [] => if sep.isEmpty then some ([], []) else none
  | c :: cs =>
    match stripPrefix? sep (c :: cs) with
    | some rest => some ([], rest)
    | none => (breakOn? sep cs).map fun (before, after) => (c :: before, after)

/-- Whether `part` stands in the text, all of its characters one after the other. -/
def occursIn (part : List Char) : List Char → Bool
  | [] => part.isEmpty
  | c :: cs => part.isPrefixOf (c :: cs) || occursIn part cs

/-- **`occursIn` is the infix relation.** -/
theorem occursIn_iff (part : List Char) : ∀ cs, occursIn part cs = true ↔ part <:+: cs
  | [] => by simp [occursIn]
  | c :: cs => by
    rw [occursIn, Bool.or_eq_true, List.isPrefixOf_iff_prefix, occursIn_iff part cs,
      List.infix_cons_iff]

/-! ## Lines for display -/

/-- Takes off the line ending of each piece that a newline closed; the last piece had none, and is
dropped when empty. -/
def closeLines : List (List Char) → List (List Char)
  | [] => []
  | [last] => if last.isEmpty then [] else [last]
  | p :: q :: ps => stripLast '\r' p :: closeLines (q :: ps)

/-- The lines of a text: a newline, with a carriage return before it if there is one, ends a line,
and nothing follows the last one. -/
def displayLines (cs : List Char) : List (List Char) :=
  closeLines (splitChar '\n' cs)

end CheckScript.Text
