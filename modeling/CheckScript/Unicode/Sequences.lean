import CheckScript.Unicode.CharSet

/-!
# Sets of characters as byte sequences

In UTF-8 the characters of a range are written by a few sequences of byte ranges: the first byte is
in the first range, the next one in the second, and so on (`CharSet.sequences`).

Read from the front, that is a machine. How large a set is can be seen from the nodes of the
smallest such machine (`CharSet.nodes`).
-/

namespace CheckScript.Unicode

/-- Byte ranges one behind the other, each by its least and its greatest byte. -/
abbrev Sequence := List (Nat × Nat)

/-- The bytes behind the first one. -/
def fullTail (count : Nat) : Sequence := List.replicate count (0x80, 0xBF)

/-- The sequences for the numbers from `first` to `last`, which are written with `count` digits of
six bits behind the first byte; `mark` is added to the first byte. -/
def sequencesOf (mark : Nat) : Nat → Nat → Nat → List Sequence
  | 0, first, last => [[(mark + first, mark + last)]]
  | count + 1, first, last =>
    let unit := Nat.pow 64 (count + 1)
    let low := first / unit
    let high := last / unit
    let under (digit first last : Nat) : List Sequence :=
      (sequencesOf 0x80 count first last).map ((mark + digit, mark + digit) :: ·)
    if low = high then under low (first % unit) (last % unit)
    else
      let cutLow := first % unit ≠ 0
      let cutHigh := last % unit ≠ unit - 1
      let fullLow := if cutLow then low + 1 else low
      let fullHigh := if cutHigh then high - 1 else high
      (if cutLow then under low (first % unit) (unit - 1) else [])
        ++ (if fullLow ≤ fullHigh then [(mark + fullLow, mark + fullHigh) :: fullTail (count + 1)]
          else [])
        ++ (if cutHigh then under high 0 (last % unit) else [])

/-- Code points that are written alike: the least and the greatest, the number of bytes behind the
first one, and the mark of the first one. Surrogates are not written. -/
structure Block where
  first : Nat
  last : Nat
  tail : Nat
  mark : Nat

/-- The blocks in order. -/
def blocks : List Block :=
  [⟨0, 0x7F, 0, 0⟩, ⟨0x80, 0x7FF, 1, 0xC0⟩, ⟨0x800, 0xD7FF, 2, 0xE0⟩, ⟨0xE000, 0xFFFF, 2, 0xE0⟩,
    ⟨0x10000, 0x10FFFF, 3, 0xF0⟩]

/-- The sequences for the code points of a range that are in a block. -/
def Block.sequences (block : Block) (range : Nat × Nat) : List Sequence :=
  let first := Nat.max block.first range.1
  let last := Nat.min block.last range.2
  if first ≤ last then sequencesOf block.mark block.tail first last else []

/-- The sequences that write the characters of a set. -/
def CharSet.sequences (set : CharSet) : List Sequence :=
  set.ranges.flatMap fun range => blocks.flatMap (·.sequences range)

example : (CharSet.range 0x7F 0x7FF).sequences
    = [[(0x7F, 0x7F)], [(0xC2, 0xDF), (0x80, 0xBF)]] := by decide +kernel

/-! ## The smallest machine

Read from the front, a set is a machine whose nodes are what can still come: lists of sequences. The
smallest machine has a node for each such list, and where nothing can come any more it is done.
-/

/-- The ways on from a node: each with the range that it takes and the sequences behind it. -/
def ways : List Sequence → List ((Nat × Nat) × List Sequence)
  | [] => []
  | [] :: sequences => ways sequences
  | (range :: ranges) :: sequences =>
    match ways sequences with
    | [] => [(range, [ranges])]
    | (other, behind) :: later =>
      if range = other then (range, ranges :: behind) :: later
      else (range, [ranges]) :: (other, behind) :: later

/-- The nodes from one on, where `depth` bytes can come at most. -/
def nodesFrom : (depth : Nat) → List Sequence → List (List Sequence)
  | 0, _ => []
  | depth + 1, sequences =>
    sequences :: (ways sequences).flatMap fun way =>
      if way.2 = [[]] then [] else nodesFrom depth way.2

/-- The nodes of the smallest machine that reads the characters of a set; a character has four
bytes at most. -/
def CharSet.nodes (set : CharSet) : List (List Sequence) := (nodesFrom 4 set.sequences).eraseDups

/-- A node has no more ways on than sequences. -/
theorem length_ways_le (sequences : List Sequence) :
    (ways sequences).length ≤ sequences.length := by
  fun_induction ways sequences <;> grind

example : (CharSet.range 0x80 0x10FFFF).nodes.map (ways · |>.length)
    = [8, 1, 1, 1, 1, 1, 1, 1] := by decide +kernel

end CheckScript.Unicode
