import CheckScript.Pattern.Size.Basic
import CheckScript.Unicode.Sequences

/-!
# Machines under construction

What has been built of a machine so far. Read from the back, the characters of a set share what
their sequences of bytes begin with, as that is where the machine is done. A state can be shared if
it is still remembered: there are a thousand places for states, the place of a state follows from
what it does, and a state that is built later takes the place of an earlier one.

States are numbered in the order in which they are built, so a state that goes on at a state of one
set is never one of another set.
-/

namespace CheckScript.Pattern

open Unicode

/-- A state that reads a byte of a range and goes on at a state. -/
structure Reading where
  next : Nat
  range : Nat × Nat
  deriving DecidableEq

/-- The number of places at which states are remembered. -/
def placeCount : Nat := 1000

/-- A number mixed into a hash. -/
def mixHash (hash : UInt64) (n : Nat) : UInt64 := 1099511628211 * (hash ^^^ n.toUInt64)

/-- The place at which a state is remembered. -/
def Reading.place (reading : Reading) : Nat :=
  (mixHash (mixHash (mixHash 14695981039346656037 reading.next) reading.range.1)
    reading.range.2).toNat % placeCount

/-- What has been built: its size, and the states that are remembered with their numbers. -/
structure Machine where
  size : Size
  places : Array (Option (Reading × Nat))

namespace Machine

/-- The machine of which nothing has been built. -/
def start : Machine := ⟨.zero, Array.replicate placeCount none⟩

/-- A machine that has become larger. -/
def grow (machine : Machine) (size : Size) : Machine := { machine with size := machine.size + size }

/-- The number of a state that is remembered. -/
def remembered? (machine : Machine) (reading : Reading) : Option Nat :=
  match machine.places[reading.place]? with
  | some (some (other, state)) => if other = reading then some state else none
  | _ => none

/-- A machine with one state more. -/
def build (machine : Machine) (reading : Reading) : Machine :=
  let state := machine.size.states
  { size := machine.size + .plain 1
    places := machine.places.setIfInBounds reading.place (some (reading, state)) }

/-- Builds what reads a sequence from the back and then goes on at a state; the way to it takes up
four bytes. -/
def addSequence (machine : Machine) (next : Nat) : Sequence → Machine
  | [] => machine.grow ⟨0, 4⟩
  | range :: ranges =>
    match machine.remembered? ⟨next, range⟩ with
    | some state => machine.addSequence state ranges
    | none =>
      let state := machine.size.states
      (machine.build ⟨next, range⟩).addSequence state ranges

/-- Builds what reads a set from the back: a state that all its sequences go on at, one that goes to
all of them, and those between. -/
def addSequences (machine : Machine) (sequences : List Sequence) : Machine :=
  let done := machine.size.states + 1
  sequences.foldl (fun machine sequence => machine.addSequence done sequence)
    (machine.grow (.plain 2))

/-- Builds something a number of times, or until the machine is too large. -/
def addTimes (add : Machine → Machine) : Nat → Machine → Machine
  | 0, machine => machine
  | count + 1, machine =>
    if Size.maxBytes < machine.size.bytes then machine else addTimes add count (add machine)

/-- What has just been built is remembered. -/
theorem remembered?_build {machine : Machine} {reading : Reading}
    (h : reading.place < machine.places.size) :
    (machine.build reading).remembered? reading = some machine.size.states := by
  simp [remembered?, build, h]

/-- Reading a sequence never makes a machine smaller. -/
theorem states_le_addSequence (machine : Machine) (next : Nat) (sequence : Sequence) :
    machine.size.states ≤ (machine.addSequence next sequence).size.states := by
  induction sequence generalizing machine next with
  | nil => exact Nat.le_refl _
  | cons range ranges ih =>
    unfold addSequence
    split
    · exact ih ..
    · exact Nat.le_trans (Nat.le_succ _) (ih (machine.build ⟨next, range⟩) _)

end Machine

end CheckScript.Pattern
