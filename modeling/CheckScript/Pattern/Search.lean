import CheckScript.Pattern.Program

/-!
# Searching with a pattern

A search goes through the text once and follows all ways through the program at the same time
(`Thread`). At each place, threads are kept in the order of preference; of the threads that reach
the same instruction at the same place, only the most preferred goes on. A thread that accepts ends
all that are less preferred than it. As long as none has accepted, a thread starts at every place.

So the match that is found starts at the leftmost place where there is a match, and among the
matches there it is the preferred one.

The threads of one place are followed as a stack (`follow`). It ends because an instruction that has
been reached is not followed again.

## Groups

The texts of groups are spans of the text (`Captured`). A thread marks the start of a group on a
stack, and a group is captured when it ends.
-/

namespace CheckScript.Pattern

open Unicode

/-- A place in the text: how many characters are before it, the one before it and the one after. -/
structure Place where
  index : Nat
  before : Option Char
  after : Option Char

/-- Whether a character is there and is in a set. -/
def isIn (set : CharSet) (c : Option Char) : Bool := c.any set.mem

/-- Whether a condition holds at a place. -/
def Look.holds (place : Place) : Look → Bool
  | .textStart => place.before.isNone
  | .textEnd => place.after.isNone
  | .lineStart => place.before.all (· == '\n')
  | .lineEnd => place.after.all (· == '\n')
  | .crlfStart =>
    match place.before with
    | none => true
    | some '\n' => true
    | some '\r' => place.after != some '\n'
    | some _ => false
  | .crlfEnd =>
    match place.after with
    | none => true
    | some '\r' => true
    | some '\n' => place.before != some '\r'
    | some _ => false
  | .wordBoundary word => isIn word place.before != isIn word place.after
  | .notWordBoundary word => isIn word place.before == isIn word place.after
  | .wordStart word => !isIn word place.before && isIn word place.after
  | .wordEnd word => isIn word place.before && !isIn word place.after
  | .wordStartHalf word => !isIn word place.before
  | .wordEndHalf word => !isIn word place.after

/-- The text of a group: its number, and the places where it starts and ends. -/
structure Captured where
  group : Nat
  start : Nat
  stop : Nat
  deriving DecidableEq, Repr

/-- A way through the program: where it is, where in the text it started, the starts of the groups
it is in, innermost first, and the groups it has been through, last first. -/
structure Thread where
  state : Nat
  start : Nat
  marks : List Nat
  captured : List Captured

/-- What is found: the places where it starts and ends, and the groups in it, last first. -/
structure Match where
  start : Nat
  stop : Nat
  captured : List Captured
  deriving DecidableEq, Repr

/-- What following threads to the next characters has led to. -/
structure Followed where
  /-- Threads that wait for a character, the least preferred first. -/
  waiting : List Thread
  /-- The thread that accepted. -/
  accepted : Option Match

/-- The thread behind the end of a group. -/
def Thread.close (thread : Thread) (group next index : Nat) : Thread :=
  match thread.marks with
  | [] => { thread with state := next }
  | mark :: marks =>
    { thread with state := next, marks, captured := ⟨group, mark, index⟩ :: thread.captured }

/-- Marking a state as seen leaves one state fewer that is not. -/
theorem count_false_set {seen : Array Bool} {state : Nat} (h : state < seen.size)
    (hs : ¬seen[state] = true) : (seen.set state true).count false + 1 = seen.count false := by
  have hfalse : seen[state] = false := Bool.eq_false_iff.mpr hs
  have hpos : 0 < seen.count false :=
    Array.count_pos_iff.mpr (Array.mem_iff_getElem.mpr ⟨state, h, hfalse⟩)
  rw [Array.count_set, hfalse, if_pos (beq_self_eq_true false), if_neg (by decide)]
  omega

/-- Follows threads, the most preferred first, up to where they wait for a character. -/
def follow (code : Code) (place : Place) (waiting : List Thread) (seen : Array Bool) :
    List Thread → Followed
  | [] => ⟨waiting, none⟩
  | thread :: stack =>
    if h : thread.state < seen.size then
      if hs : seen[thread.state] then follow code place waiting seen stack
      else
        let seen' := seen.set thread.state true
        match code[thread.state]? with
        | some (.char ..) => follow code place (thread :: waiting) seen' stack
        | some (.look condition next) =>
          if condition.holds place then
            follow code place waiting seen' ({ thread with state := next } :: stack)
          else follow code place waiting seen' stack
        | some (.split preferred other) =>
          follow code place waiting seen'
            ({ thread with state := preferred } :: { thread with state := other } :: stack)
        | some (.mark next) =>
          follow code place waiting seen'
            ({ thread with state := next, marks := place.index :: thread.marks } :: stack)
        | some (.close group next) =>
          follow code place waiting seen' (thread.close group next place.index :: stack)
        | some .accept => ⟨waiting, some ⟨thread.start, place.index, thread.captured⟩⟩
        | none => follow code place waiting seen' stack
    else follow code place waiting seen stack
termination_by stack => 2 * seen.count false + stack.length
decreasing_by
  · simp
  iterate 7
    · have := count_false_set h hs
      simp only [List.length_cons]
      omega
  · simp

/-- The thread behind a character, if it waits for one like it. -/
def Thread.step (code : Code) (c : Char) (thread : Thread) : Option Thread :=
  match code[thread.state]? with
  | some (.char set next) => if set.mem c then some { thread with state := next } else none
  | _ => none

/-- Searches from a place on, with the threads that have come to it and the best match so far. -/
def searchFrom (program : Program) (index : Nat) (before : Option Char) (threads : List Thread)
    (best : Option Match) : List Char → Option Match
  | [] => (enter none).accepted.or best
  | c :: cs =>
    let followed := enter (some c)
    let best := followed.accepted.or best
    let threads := followed.waiting.reverse.filterMap (Thread.step program.code c)
    if threads.isEmpty && best.isSome then best
    else searchFrom program (index + 1) (some c) threads best cs
where
  /-- Follows the threads at this place, and one that starts here if nothing has been found. -/
  enter (after : Option Char) : Followed :=
    let fresh : List Thread := if best.isSome then [] else [⟨program.start, index, [], []⟩]
    follow program.code ⟨index, before, after⟩ [] (Array.replicate program.code.size false)
      (threads ++ fresh)

/-- The leftmost match in a text, the preferred one there. -/
def Program.search (program : Program) (text : List Char) : Option Match :=
  searchFrom program 0 none [] none text

/-- The places where a group starts and ends, if it took part in the match. -/
def Match.group? (found : Match) (group : Nat) : Option (Nat × Nat) :=
  (found.captured.find? (·.group == group)).map fun c => (c.start, c.stop)

end CheckScript.Pattern
