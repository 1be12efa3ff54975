import CheckScript.Calendar.Time
import CheckScript.Text.Digit

/-!
# Dates and times in TOML

A date, a time of day, or both, and behind both an offset: `2026-10-19`, `08:30:00.5`,
`2026-10-19T08:30:00Z`. They are read in two places: as a value of a document (`Moment.read`), where
a date can be followed by something else, and as a whole text (`Moment.ofText?`).

Parts of a second are cut after the ninth digit and written without zeros at the end.
-/

namespace CheckScript.Toml

open Text Calendar

/-- How far clocks are ahead at a place. -/
inductive Offset where
  | utc
  | minutes (n : Int)
  deriving DecidableEq, Repr

/-- A date, a time of day, or both. -/
inductive Moment where
  | date (d : Date)
  | time (t : Time)
  | both (d : Date) (t : Time) (offset : Option Offset)
  deriving DecidableEq, Repr

namespace Moment

/-! ## Writing -/

/-- The list without the zeros at its end. -/
def dropZerosAtEnd (digits : List Char) : List Char :=
  (digits.reverse.dropWhile (· == '0')).reverse

/-- A time of day with as many digits of the second as it needs. -/
def timeText (t : Time) : List Char :=
  t.text ++ if t.nanosecond = 0 then [] else '.' :: dropZerosAtEnd (paddedDigits 9 t.nanosecond)

/-- The text of an offset. -/
def offsetText : Option Offset → List Char
  | none => []
  | some .utc => ['Z']
  | some (.minutes n) => Calendar.offsetText n

/-- The text of a moment. -/
def text : Moment → List Char
  | .date d => d.text
  | .time t => timeText t
  | .both d t offset => d.text ++ 'T' :: timeText t ++ offsetText offset

/-! ## Reading -/

/-- Reads a number of two digits. -/
def readTwo : List Char → Option (Nat × List Char)
  | a :: b :: rest =>
    if isDigit a && isDigit b then some (natOfDigits [a, b], rest) else none
  | _ => none

/-- Reads a character. -/
def skipChar (c : Char) : List Char → Option (List Char)
  | d :: rest => if d = c then some rest else none
  | [] => none

/-- Reads a date. -/
def readDate (cs : List Char) : Option (Date × List Char) := do
  let (century, cs) ← readTwo cs
  let (rest, cs) ← readTwo cs
  let (month, cs) ← readTwo (← skipChar '-' cs)
  let (day, cs) ← readTwo (← skipChar '-' cs)
  return (← Date.ofYmd? ((century * 100 + rest : Nat) : Int) month day, cs)

/-- Parts of a second in nanoseconds, cut after the ninth digit. -/
def nanoseconds (digits : List Char) : Nat :=
  natOfDigits (digits.take 9) * Nat.pow 10 (9 - (digits.take 9).length)

/-- Reads a part of a second, if there is one. -/
def readFraction (cs : List Char) : Option (Nat × List Char) :=
  match cs with
  | '.' :: rest =>
    let digits := rest.takeWhile isDigit
    if digits.isEmpty then none else some (nanoseconds digits, rest.dropWhile isDigit)
  | cs => some (0, cs)

/-- Reads a time of day. -/
def readTime (cs : List Char) : Option (Time × List Char) := do
  let (hour, cs) ← readTwo cs
  let (minute, cs) ← readTwo (← skipChar ':' cs)
  let (second, cs) ← readTwo (← skipChar ':' cs)
  let (nanosecond, cs) ← readFraction cs
  if hour ≤ 23 ∧ minute ≤ 59 ∧ second ≤ 60 then
    return (⟨hour, minute, second, nanosecond⟩, cs)
  else none

/-- Reads an offset from behind its sign; it is shorter than a day. -/
def readSigned (negative : Bool) (cs : List Char) : Option (Offset × List Char) := do
  let (hours, cs) ← readTwo cs
  let (minutes, cs) ← readTwo (← skipChar ':' cs)
  if hours ≤ 23 ∧ minutes ≤ 59 then
    let n : Int := hours * 60 + minutes
    return (.minutes (if negative then -n else n), cs)
  else none

/-- Reads an offset if there is one. -/
def readOffset (cs : List Char) : Option (Option Offset × List Char) :=
  match cs with
  | 'Z' :: rest => some (some .utc, rest)
  | 'z' :: rest => some (some .utc, rest)
  | '+' :: rest => (readSigned false rest).map fun (offset, rest) => (some offset, rest)
  | '-' :: rest => (readSigned true rest).map fun (offset, rest) => (some offset, rest)
  | cs => some (none, cs)

/-- What stands between a date and a time. -/
def isDateEnd (c : Char) : Bool := c == 'T' || c == 't' || c == ' '

/-- Reads a moment in a document. A date is read alone if no time follows it. -/
def read (cs : List Char) : Option (Moment × List Char) :=
  match readDate cs with
  | none => (readTime cs).map fun (t, rest) => (.time t, rest)
  | some (d, []) => some (.date d, [])
  | some (d, c :: rest) =>
    if isDateEnd c then
      match readTime rest with
      | none => some (.date d, c :: rest)
      | some (t, rest) =>
        (readOffset rest).map fun (offset, rest) => (.both d t offset, rest)
    else some (.date d, c :: rest)

/-- The moment that a whole text writes. -/
def ofText? (cs : List Char) : Option Moment :=
  match read cs with
  | some (moment, []) => some moment
  | _ => none

end Moment

end CheckScript.Toml
