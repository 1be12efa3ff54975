import CheckScript.Pattern.Regex

/-!
# Patterns as programs

A pattern becomes a list of instructions, each of which names the one to go on with. Where there are
two ways to go on, the first is preferred, so the order of the ways through a program is the order
of preference among the matches.

Code is laid down from the back: the code of a pattern is laid down when it is known where to go on
behind it. Only a loop has to name an instruction that does not yet exist; its split is laid down
first and completed when the body stands.

A loop over a body that can match without taking up text is an optional loop with at least one
round: then the body is left after a round without text, which is as much as that round was worth.
-/

namespace CheckScript.Pattern

open Unicode

/-- An instruction. -/
inductive Instr where
  /-- Takes up a character of the set. -/
  | char (set : CharSet) (next : Nat)
  /-- Goes on if the condition holds. -/
  | look (condition : Look) (next : Nat)
  /-- Goes on in two ways, of which the first is preferred. -/
  | split (preferred other : Nat)
  /-- Marks the start of a group. -/
  | mark (next : Nat)
  /-- Ends the group that was marked last. -/
  | close (group : Nat) (next : Nat)
  /-- The pattern has matched. -/
  | accept

/-- Code laid down so far. -/
abbrev Code := Array Instr

/-- Lays down an instruction; answers where it is. -/
def Code.emit (code : Code) (instr : Instr) : Code × Nat :=
  let entry := code.size
  (code.push instr, entry)

/-- A split between going into a body and going on, which is preferred if greedy. -/
def splitInto (greedy : Bool) (body next : Nat) : Instr :=
  if greedy then .split body next else .split next body

/-- Lays down something `count` times, each in front of the one before. -/
def layTimes (lay : Nat → Code → Code × Nat) : Nat → Nat → Code → Code × Nat
  | 0, next, code => (code, next)
  | count + 1, next, code =>
    let (code, entry) := lay next code
    layTimes lay count entry code

/-- Lays down a body `count` times, where each can be left for `exit`, together with those behind
it. -/
def layOptional (lay : Nat → Code → Code × Nat) (greedy : Bool) (exit : Nat) :
    Nat → Nat → Code → Code × Nat
  | 0, next, code => (code, next)
  | count + 1, next, code =>
    let (code, body) := lay next code
    let (code, entry) := code.emit (splitInto greedy body exit)
    layOptional lay greedy exit count entry code

/-- Lays down a body that is gone through once or more; answers where it starts and where it is
decided whether to repeat it. -/
def layLoop (lay : Nat → Code → Code × Nat) (greedy : Bool) (next : Nat) (code : Code) :
    Code × Nat × Nat :=
  let (code, decision) := code.emit .accept
  let (code, body) := lay decision code
  (code.setIfInBounds decision (splitInto greedy body next), body, decision)

/-- Lays down characters one behind the other. -/
def layText : List Char → Nat → Code → Code × Nat
  | [], next, code => (code, next)
  | c :: cs, next, code =>
    let (code, entry) := layText cs next code
    code.emit (.char (.single c) entry)

mutual

/-- Lays down the code of a pattern that goes on at `next`; answers where it starts. -/
def Regex.lay : Regex → Nat → Code → Code × Nat
  | .empty, next, code => (code, next)
  | .text chars, next, code => layText chars next code
  | .char set, next, code => code.emit (.char set next)
  | .look condition, next, code => code.emit (.look condition next)
  | .group index _ body, next, code =>
    let (code, entry) := code.emit (.close index next)
    let (code, entry) := body.lay entry code
    code.emit (.mark entry)
  | .seq parts, next, code => layAll parts next code
  | .alt branches, next, code => layBranches branches next code
  | .loop body min (some max) greedy, next, code =>
    let (code, entry) := layOptional body.lay greedy next (max - min) next code
    layTimes body.lay min entry code
  | .loop body 0 none greedy, next, code =>
    let (code, entry, decision) := layLoop body.lay greedy next code
    if body.takesSome then (code, decision) else code.emit (splitInto greedy entry next)
  | .loop body (min + 1) none greedy, next, code =>
    let (code, entry, _) := layLoop body.lay greedy next code
    layTimes body.lay min entry code

/-- Lays down patterns one behind the other. -/
def layAll : List Regex → Nat → Code → Code × Nat
  | [], next, code => (code, next)
  | part :: parts, next, code =>
    let (code, entry) := layAll parts next code
    part.lay entry code

/-- Lays down branches that all go on at `next`; without any there is no way on. -/
def layBranches : List Regex → Nat → Code → Code × Nat
  | [], next, code => code.emit (.char .empty next)
  | [branch], next, code => branch.lay next code
  | branch :: branches, next, code =>
    let (code, other) := layBranches branches next code
    let (code, preferred) := branch.lay next code
    code.emit (.split preferred other)

end

/-- A program: its code and where it starts. -/
structure Program where
  code : Code
  start : Nat

/-- The program of a pattern. -/
def Regex.program (regex : Regex) : Program :=
  let (code, accept) := Code.emit #[] .accept
  let (code, start) := regex.lay accept code
  ⟨code, start⟩

end CheckScript.Pattern
