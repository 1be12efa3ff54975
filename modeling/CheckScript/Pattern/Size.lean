import CheckScript.Pattern.Program
import CheckScript.Pattern.Size.Machine
import CheckScript.Pattern.Size.WordTree
import CheckScript.Text.Bytes

/-!
# How large patterns are

A pattern may be as large as two machines allow that read a text byte by byte, one from the front
and one from the back: neither may take up more than ten mebibytes (`Regex.fits`).

How such a machine is built is a `Blueprint`, which says in which order its parts are built. The
machine from the front marks where groups start and end. The machine from the back does not, and
builds sequences from their last part on.

Repetitions are written out, so that a repetition of repetitions can be far too large to be built:
building ends as soon as the machine is too large (`Machine.addTimes`).
-/

namespace CheckScript.Pattern

open Text Unicode

/-- The end of a text from which it is read. -/
inductive Direction where
  | front
  | back
  deriving DecidableEq, Repr

/-- The condition that holds where reading starts. -/
def Direction.anchor : Direction → Look
  | .front => .textStart
  | .back => .textEnd

/-- Things in the order in which they are read. -/
def Direction.order {α : Type} (direction : Direction) (list : List α) : List α :=
  match direction with
  | .front => list
  | .back => list.reverse

/-! ## Anchored patterns -/

mutual

/-- Whether a pattern holds only where reading starts. -/
def Regex.isAnchored (direction : Direction) : Regex → Bool
  | .look condition => condition == direction.anchor
  | .group _ _ body => body.isAnchored direction
  | .seq parts => startsAnchored direction parts
  | .alt branches => allAnchored direction branches
  | .loop body min _ _ => decide (0 < min) && body.isAnchored direction
  | _ => false

/-- Whether the first part that takes up text, or one that is read before it, holds only where
reading starts. -/
def startsAnchored (direction : Direction) : List Regex → Bool
  | [] => false
  | part :: parts =>
    match direction with
    | .front =>
      part.isAnchored direction || part.takesNothing && startsAnchored direction parts
    | .back =>
      startsAnchored direction parts || Regex.allTakeNothing parts && part.isAnchored direction

/-- Whether all branches hold only where reading starts. -/
def allAnchored (direction : Direction) : List Regex → Bool
  | [] => true
  | branch :: branches => branch.isAnchored direction && allAnchored direction branches

end

/-! ## Blueprints -/

/-- How a machine is built. -/
inductive Blueprint where
  /-- Something of a size. -/
  | fixed (size : Size)
  /-- The characters of a set, read from the back. -/
  | fromBack (sequences : List Sequence)
  /-- Parts, one after the other. -/
  | several (parts : List Blueprint)
  /-- A part that is built a number of times. -/
  | times (count : Nat) (part : Blueprint)

/-- States with one way on each. -/
def Blueprint.plain (count : Nat) : Blueprint := .fixed (.plain count)

/-- Any of some things: where they are told apart and where they meet is built behind the second. -/
def Blueprint.anyOf (branches : List Blueprint) : Blueprint :=
  .several (branches.take 2 ++ .fixed (.fork branches.length + .plain 1) :: branches.drop 2)

/-- A number of repetitions, with a way out behind each of them that can be the last. -/
def Blueprint.repeated (body : Blueprint) (takesSome : Bool) : Nat → Option Nat → Blueprint
  | 0, none =>
    if takesSome then .several [.fixed (.fork 2), body]
    else .several [body, .fixed (.fork 2 + .fork 2 + .plain 1)]
  | min, none => .several [.times min body, .fixed (.fork 2)]
  | 0, some 1 => .several [.fixed (.fork 2), body, .plain 1]
  | min, some max =>
    let certain := if min = 0 then .plain 1 else .times min body
    if min = max then certain
    else .several [certain, .plain 1, .times (max - min) (.several [.fixed (.fork 2), body])]

/-- The machine of a set. ASCII is told by a table; any other set is read byte by byte. -/
def Direction.setBlueprint (direction : Direction) (set : CharSet) : Blueprint :=
  if set.ranges.all (·.2 < 0x80) then .fixed (.table set.ranges.length + .plain 1)
  else
    match direction with
    | .front =>
      let nodes := set.nodes.map fun node => Size.table (ways node).length
      .fixed (.plain 1 + .sum nodes)
    | .back => .fromBack set.sequences

/-- The bytes of a pattern in the order in which they are read, if it is a text. -/
def Regex.word? (direction : Direction) : Regex → Option (List UInt8)
  | .text chars => some (direction.order (chars.flatMap String.utf8EncodeChar))
  | _ => none

mutual

/-- How the machine of a pattern is built. -/
def Regex.blueprint (direction : Direction) : Regex → Blueprint
  | .empty => .plain 1
  | .text chars => .plain (byteLength chars)
  | .char set => direction.setBlueprint set
  | .look _ => .plain 1
  | .group _ _ body =>
    match direction with
    | .front => .several [.plain 1, body.blueprint direction, .plain 1]
    | .back => body.blueprint direction
  | .seq parts => .several (direction.order (blueprints direction parts))
  | .alt branches =>
    match branches.mapM (Regex.word? direction) with
    | some words => .fixed (WordTree.ofWords words).size
    | none => .anyOf (blueprints direction branches)
  | .loop body min max _ => (body.blueprint direction).repeated body.takesSome min max

/-- How the machines of some patterns are built. -/
def blueprints (direction : Direction) : List Regex → List Blueprint
  | [] => []
  | regex :: regexes => regex.blueprint direction :: blueprints direction regexes

end

/-- What stands in front of a pattern: if it can hold at any place, a loop over any bytes. -/
def entrance (anchored : Bool) : Blueprint :=
  if anchored then .plain 1 else .fixed (.fork 2 + .table 1 + .plain 1)

/-- How the machine of a whole pattern, which is group 0, is built. -/
def Regex.wholeBlueprint (direction : Direction) (regex : Regex) : Blueprint :=
  .several [entrance (regex.isAnchored direction), (Regex.group 0 none regex).blueprint direction,
    .plain 1]

/-! ## Building -/

mutual

/-- Builds a part of a machine. -/
def Blueprint.build : Blueprint → Machine → Machine
  | .fixed size, machine => machine.grow size
  | .fromBack sequences, machine => machine.addSequences sequences
  | .several parts, machine => buildAll parts machine
  | .times count part, machine => machine.addTimes part.build count

/-- Builds some parts of a machine, one after the other. -/
def buildAll : List Blueprint → Machine → Machine
  | [], machine => machine
  | part :: parts, machine => buildAll parts (part.build machine)

end

/-- Whether neither of the machines of a pattern is too large. -/
def Regex.fits (regex : Regex) : Bool :=
  [Direction.front, Direction.back].all fun direction =>
    ((regex.wholeBlueprint direction).build .start).size.bytes ≤ Size.maxBytes

end CheckScript.Pattern
