import CheckScript.Calendar.Fields
import CheckScript.Text.Blank
import CheckScript.Text.Letter
import CheckScript.Text.Read

/-!
# The parts of a written time

Numbers, parts of a second, names, offsets and comments. Each reader reads from the front of a text
and answers with what it read and what is left.
-/

namespace CheckScript.Calendar

open Text

/-! ## Numbers -/

/-- Reads a number of `least` digits and up to `most`, or as many as there are. -/
def readNumber (least : Nat) (most : Option Nat) (cs : List Char) : Option (Int × List Char) :=
  let digits := match most with
    | some most => (cs.take most).takeWhile isDigit
    | none => cs.takeWhile isDigit
  if digits.length < least then none else some (natOfDigits digits, cs.drop digits.length)

/-- Reads a number of exactly so many digits. -/
def readDigitsOf (count : Nat) (cs : List Char) : Option (Int × List Char) :=
  readNumber count (some count) cs

/-- Reads a number with a sign, of any length, or one without, of up to so many digits. -/
def readSigned (most : Option Nat) : List Char → Option (Int × List Char)
  | '-' :: cs => (readNumber 1 none cs).map fun (n, rest) => (-n, rest)
  | '+' :: cs => readNumber 1 none cs
  | cs => readNumber 1 most cs

/-- Reads the digits of a part of a second, in nanoseconds; digits beyond the ninth are dropped. -/
def readFraction (cs : List Char) : Option (Int × List Char) :=
  let digits := cs.takeWhile isDigit
  if digits.isEmpty then none
  else
    let kept := digits.take 9
    some (natOfDigits kept * Nat.pow 10 (9 - kept.length), cs.dropWhile isDigit)

/-- Reads exactly so many digits of a part of a second, in nanoseconds. -/
def readFractionOf (count : Nat) (cs : List Char) : Option (Int × List Char) :=
  (readDigitsOf count cs).map fun (n, rest) => (n * Nat.pow 10 (9 - count), rest)

/-! ## Names -/

/-- The months. -/
def monthNames : List (List Char) :=
  ["january", "february", "march", "april", "may", "june", "july", "august", "september", "october",
    "november", "december"].map String.toList

/-- The week days, from Monday. -/
def weekdayNames : List (List Char) :=
  ["monday", "tuesday", "wednesday", "thursday", "friday", "saturday", "sunday"].map String.toList

/-- Reads one of some names in any case, by its first three letters; the rest of it is read too if
`long` names are meant and it is there. Answers with the number of the name, from 0. -/
def readName (long : Bool) (cs : List Char) : List (List Char) → Option (Nat × List Char)
  | [] => none
  | name :: names =>
    match stripWord? (name.take 3) cs with
    | some rest => some (0, if long then (stripWord? (name.drop 3) rest).getD rest else rest)
    | none => (readName long cs names).map fun (i, rest) => (i + 1, rest)

/-- Reads `am` or `pm` in any case: 0 or 1. -/
def readHalf (cs : List Char) : Option (Nat × List Char) :=
  readName false cs [['a', 'm'], ['p', 'm']]

/-! ## Offsets -/

/-- How offsets are written where they are read. -/
structure OffsetStyle where
  /-- Whether `Z` means none. -/
  zulu : Bool
  /-- Whether the minutes may be left out at the end of the text. -/
  hoursAlone : Bool
  /-- Whether the sign may be U+2212. -/
  minusSign : Bool

/-- Reads the sign of an offset; whether it is negative. -/
def readOffsetSign (style : OffsetStyle) : List Char → Option (Bool × List Char)
  | '+' :: cs => some (false, cs)
  | '-' :: cs => some (true, cs)
  | c :: cs => if c = '\u2212' ∧ style.minusSign then some (true, cs) else none
  | [] => none

/-- Reads an offset in minutes; `separator` reads what is between hours and minutes. -/
def readOffset (style : OffsetStyle) (separator : List Char → Option (List Char))
    (cs : List Char) : Option (Int × List Char) :=
  if style.zulu ∧ (cs.head? = some 'Z' ∨ cs.head? = some 'z') then some (0, cs.drop 1)
  else do
    let (negative, cs) ← readOffsetSign style cs
    let (hours, cs) ← readDigitsOf 2 cs
    let cs ← separator cs
    let (minutes, cs) ←
      if style.hoursAlone ∧ cs = [] then some (0, []) else readDigitsOf 2 cs
    if 59 < minutes then none
    else
      let offset := hours * 60 + minutes
      some (if negative then -offset else offset, cs)

/-- Colons and blanks, as many as there are. -/
def skipColons (cs : List Char) : Option (List Char) :=
  some (cs.dropWhile fun c => c == ':' || isBlank c)

/-- One character. -/
def expect (c : Char) : List Char → Option (List Char)
  | [] => none
  | d :: cs => if d = c then some cs else none

/-! ## Comments -/

/-- Reads a comment up to behind its closing parenthesis, from behind the opening one, when `depth`
comments are open around it. A reverse solidus takes the meaning off the character behind it. -/
def skipComment : Nat → List Char → Option (List Char)
  | _, [] => none
  | depth, '\\' :: cs =>
    match cs with
    | [] => none
    | _ :: cs => skipComment depth cs
  | depth, '(' :: cs => skipComment (depth + 1) cs
  | 0, ')' :: cs => some cs
  | depth + 1, ')' :: cs => skipComment depth cs
  | depth, _ :: cs => skipComment depth cs

/-- Reads a comment behind blanks. -/
def readComment (cs : List Char) : Option (Unit × List Char) :=
  (expect '(' (trimStart cs)).bind fun rest => (skipComment 0 rest).map fun rest => ((), rest)

/-- Skips the comments at the front of a text. -/
def skipComments (cs : List Char) : List Char :=
  match Read.ofPair? cs (readComment cs) with
  | some r => skipComments r.rest
  | none => cs
termination_by cs.length
decreasing_by exact r.shorter

/-- Blanks, of which there is at least one. -/
def readBlanks (cs : List Char) : Option (List Char) :=
  if cs.head?.any isBlank then some (trimStart cs) else none

end CheckScript.Calendar
