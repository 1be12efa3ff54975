import CheckScript.Calendar.Scan

/-!
# Formats

A format says how a time is written. A specifier, a percent sign and a letter, stands for a part of
the time; blanks stand for any blanks, and anything else for itself. Some specifiers stand for
several others.

The sign of padding may stand before the letter of a number, but reading does not depend on it:
every number may have blanks in front, and fewer digits than it is written with.

A text without a meaning as a format is none (`Format.ofText?`).
-/

namespace CheckScript.Calendar

open Text

/-- A number that a format asks for. -/
structure NumberItem where
  /-- How many digits it has at most. -/
  width : Option Nat
  /-- Whether it may have a sign, and then any number of digits. -/
  signed : Bool
  /-- What it says. -/
  store : Fields → Int → Option Fields

/-- A part of a format. -/
inductive Item where
  | literal (c : Char)
  | blanks
  | number (item : NumberItem)
  | monthName (long : Bool)
  | weekdayName (long : Bool)
  | half
  /-- A point and parts of a second, or nothing. -/
  | fraction
  /-- A point and so many digits of a second, or nothing. -/
  | fractionOf (digits : Nat)
  /-- So many digits of a second. -/
  | bareFraction (digits : Nat)
  /-- The name of a time zone, which says nothing. -/
  | zoneName
  | offset (style : OffsetStyle)
  /-- What stands between a date and a time: `T` or a space. -/
  | dateEnd
  /-- An offset, or the name `UTC`. -/
  | offsetOrUtc

/-- A format: its parts in order. -/
abbrev Format := List Item

namespace NumberItem

/-- A number without a sign that is the value of a field. -/
def ofField (width : Nat) (field : Field) : NumberItem :=
  ⟨some width, false, fun fields n => fields.set? field n⟩

/-- A year of four digits, or with a sign. -/
def year (field : Field) : NumberItem := ⟨some 4, true, fun fields n => fields.set? field n⟩

/-- The hour of the day. -/
def hour : NumberItem :=
  ⟨some 2, false, fun fields n => if n ≤ 23 then fields.setHour? n else none⟩

/-- The hour of half a day, from 1 to 12. -/
def hourOfHalf : NumberItem :=
  ⟨some 2, false, fun fields n =>
    if 1 ≤ n ∧ n ≤ 12 then fields.set? .hourOfHalf (n % 12) else none⟩

/-- The week day from Monday, which is 1. -/
def weekdayFromMonday : NumberItem :=
  ⟨some 1, false, fun fields n => fields.set? .weekday (n - 1)⟩

/-- The week day from Sunday, which is 0. -/
def weekdayFromSunday : NumberItem :=
  ⟨some 1, false, fun fields n => if n ≤ 6 then fields.set? .weekday ((n + 6) % 7) else none⟩

/-- The number of a specifier. -/
def ofLetter? (c : Char) : Option NumberItem :=
  match c with
  | 'C' => some (ofField 2 .century)
  | 'G' => some (year .isoYear)
  | 'H' => some hour
  | 'I' => some hourOfHalf
  | 'M' => some (ofField 2 .minute)
  | 'S' => some (ofField 2 .second)
  | 'U' => some (ofField 2 .sundayWeek)
  | 'V' => some (ofField 2 .isoWeek)
  | 'W' => some (ofField 2 .mondayWeek)
  | 'Y' => some (year .year)
  | 'd' => some (ofField 2 .day)
  | 'e' => some (ofField 2 .day)
  | 'f' => some (ofField 9 .nanosecond)
  | 'g' => some (ofField 2 .isoYearOfCentury)
  | 'j' => some (ofField 3 .ordinal)
  | 'k' => some hour
  | 'l' => some hourOfHalf
  | 'm' => some (ofField 2 .month)
  | 'q' => some (ofField 1 .quarter)
  | 's' => some ⟨none, false, fun fields n => fields.set? .timestamp n⟩
  | 'u' => some weekdayFromMonday
  | 'w' => some weekdayFromSunday
  | 'y' => some (ofField 2 .yearOfCentury)
  | _ => none

end NumberItem

/-! ## Specifiers of several parts -/

/-- Numbers with a character between them. -/
def numbersWith (between : Char) : List NumberItem → Format
  | [] => []
  | [n] => [.number n]
  | n :: ns => .number n :: .literal between :: numbersWith between ns

/-- Month, day and the last digits of the year, with solidi between them. -/
def slashDate : Format :=
  numbersWith '/' [.ofField 2 .month, .ofField 2 .day, .ofField 2 .yearOfCentury]

/-- Hour, minute and second, with colons between them. -/
def clock : Format := numbersWith ':' [.hour, .ofField 2 .minute, .ofField 2 .second]

/-- A date and a time of day with an offset, with blanks between the parts. -/
def stamp : Format :=
  [.number (.year .year), .blanks, .literal '-', .number (.ofField 2 .month), .blanks, .literal '-',
    .number (.ofField 2 .day), .dateEnd, .number .hour, .blanks, .literal ':',
    .number (.ofField 2 .minute), .blanks, .literal ':', .number (.ofField 2 .second), .fraction,
    .blanks, .offsetOrUtc]

/-- How specifiers want offsets: with minutes, and never as a letter. -/
def plainOffset : OffsetStyle := ⟨false, false, true⟩

/-- The parts that a specifier stands for. -/
def itemsOfLetter? (c : Char) : Option Format :=
  match c with
  | 'A' => some [.weekdayName true]
  | 'B' => some [.monthName true]
  | 'D' => some slashDate
  | 'F' => some (numbersWith '-' [.year .year, .ofField 2 .month, .ofField 2 .day])
  | 'P' => some [.half]
  | 'R' => some (numbersWith ':' [.hour, .ofField 2 .minute])
  | 'T' => some clock
  | 'X' => some clock
  | 'Z' => some [.zoneName]
  | 'a' => some [.weekdayName false]
  | 'b' => some [.monthName false]
  | 'c' =>
    some ([.weekdayName false, .blanks, .monthName false, .blanks, .number (.ofField 2 .day),
        .blanks]
      ++ clock ++ [.blanks, .number (.year .year)])
  | 'h' => some [.monthName false]
  | 'n' => some [.blanks]
  | 'p' => some [.half]
  | 'r' =>
    some (numbersWith ':' [.hourOfHalf, .ofField 2 .minute, .ofField 2 .second] ++ [.blanks, .half])
  | 't' => some [.blanks]
  | 'v' =>
    some [.number (.ofField 2 .day), .literal '-', .monthName false, .literal '-',
      .number (.year .year)]
  | 'x' => some slashDate
  | 'z' => some [.offset plainOffset]
  | '+' => some stamp
  | '%' => some [.literal '%']
  | c => (NumberItem.ofLetter? c).map fun n => [.number n]

/-- Reads a specifier from behind its percent sign. -/
def readSpecifier : List Char → Option (Format × List Char)
  | '-' :: c :: rest => (NumberItem.ofLetter? c).map fun n => ([.number n], rest)
  | '0' :: c :: rest => (NumberItem.ofLetter? c).map fun n => ([.number n], rest)
  | '_' :: c :: rest => (NumberItem.ofLetter? c).map fun n => ([.number n], rest)
  | '#' :: 'z' :: rest => some ([.offset ⟨true, true, true⟩], rest)
  | ':' :: 'z' :: rest => some ([.offset plainOffset], rest)
  | ':' :: ':' :: 'z' :: rest => some ([.offset plainOffset], rest)
  | ':' :: ':' :: ':' :: 'z' :: rest => some ([.offset plainOffset], rest)
  | '.' :: 'f' :: rest => some ([.fraction], rest)
  | '.' :: '3' :: 'f' :: rest => some ([.fractionOf 3], rest)
  | '.' :: '6' :: 'f' :: rest => some ([.fractionOf 6], rest)
  | '.' :: '9' :: 'f' :: rest => some ([.fractionOf 9], rest)
  | '3' :: 'f' :: rest => some ([.bareFraction 3], rest)
  | '6' :: 'f' :: rest => some ([.bareFraction 6], rest)
  | '9' :: 'f' :: rest => some ([.bareFraction 9], rest)
  | c :: rest => (itemsOfLetter? c).map fun items => (items, rest)
  | [] => none

/-- The format that a text writes. -/
def Format.ofText? (cs : List Char) : Option Format :=
  match cs with
  | [] => some []
  | '%' :: rest =>
    match Read.ofPair? rest (readSpecifier rest) with
    | none => none
    | some r => (Format.ofText? r.rest).map (r.value ++ ·)
  | c :: rest =>
    (Format.ofText? rest).map ((if isBlank c then .blanks else .literal c) :: ·)
termination_by cs.length
decreasing_by
  · have := r.shorter
    simp only [List.length_cons]
    omega
  · simp

/-! ## Reading by a format -/

/-- Reads a number, blanks in front of it skipped. -/
def NumberItem.read (item : NumberItem) (fields : Fields) (cs : List Char) :
    Option (Fields × List Char) := do
  let (n, rest) ←
    if item.signed then readSigned item.width (trimStart cs)
    else readNumber 1 item.width (trimStart cs)
  return (← item.store fields n, rest)

/-- Reads parts of a second behind a point; nothing if there is no point. -/
def readPointed (read : List Char → Option (Int × List Char)) (fields : Fields) :
    List Char → Option (Fields × List Char)
  | '.' :: cs => do
    let (n, rest) ← read cs
    return (← fields.set? .nanosecond n, rest)
  | cs => some (fields, cs)

/-- Reads a part of a time. -/
def Item.read (fields : Fields) (cs : List Char) : Item → Option (Fields × List Char)
  | .literal c => (expect c cs).map fun rest => (fields, rest)
  | .blanks => some (fields, trimStart cs)
  | .number item => item.read fields cs
  | .monthName long => do
    let (i, rest) ← readName long cs monthNames
    return (← fields.set? .month (i + 1), rest)
  | .weekdayName long => do
    let (i, rest) ← readName long cs weekdayNames
    return (← fields.set? .weekday i, rest)
  | .half => do
    let (i, rest) ← readHalf cs
    return (← fields.set? .half i, rest)
  | .fraction => readPointed readFraction fields cs
  | .fractionOf digits => readPointed (readFractionOf digits) fields cs
  | .bareFraction digits => do
    let (n, rest) ← readFractionOf digits cs
    return (← fields.set? .nanosecond n, rest)
  | .zoneName => some (fields, cs.dropWhile fun c => !isBlank c)
  | .offset style => do
    let (n, rest) ← readOffset style skipColons (trimStart cs)
    return (← fields.set? .offset n, rest)
  | .dateEnd =>
    match cs with
    | c :: rest => if c = 'T' ∨ c = 't' ∨ c = ' ' then some (fields, rest) else none
    | [] => none
  | .offsetOrUtc => do
    let (n, rest) ← match stripWord? ['u', 't', 'c'] (trimStart cs) with
      | some rest => some (0, rest)
      | none => readOffset ⟨true, false, true⟩ skipColons (trimStart cs)
    return (← fields.set? .offset n, rest)

/-- Reads a whole text by a format: what it says, field by field. -/
def Format.read? (fields : Fields) (cs : List Char) : Format → Option Fields
  | [] => if cs.isEmpty then some fields else none
  | item :: items => do
    let (fields, rest) ← item.read fields cs
    Format.read? fields rest items

end CheckScript.Calendar
