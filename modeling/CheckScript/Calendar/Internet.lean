import CheckScript.Calendar.Scan

/-!
# Times as they are written in messages

Two ways to write a time that are read without a format: time stamps such as
`2026-10-19T08:30:00.250+02:00` (`readStamp?`), and the dates of mail such as
`Mon, 19 Oct 2026 08:30:00 +0200 (a comment)` (`readMailDate?`).
-/

namespace CheckScript.Calendar

open Text

/-- Reads a value for a field. -/
def readField (read : List Char → Option (Int × List Char)) (field : Field) (fields : Fields)
    (cs : List Char) : Option (Fields × List Char) := do
  let (n, rest) ← read cs
  return (← fields.set? field n, rest)

/-- Reads the hour in two digits. -/
def readHour (fields : Fields) (cs : List Char) : Option (Fields × List Char) := do
  let (n, rest) ← readDigitsOf 2 cs
  if n ≤ 23 then return (← fields.setHour? n, rest) else none

/-! ## Time stamps -/

/-- The greatest offset of a time stamp. -/
def maxStampOffset : Nat := 23 * 60 + 59

/-- Reads a time stamp. -/
def readStamp? (cs : List Char) : Option Fields := do
  let (fields, cs) ← readField (readDigitsOf 4) .year Fields.none cs
  let (fields, cs) ← readField (readDigitsOf 2) .month fields (← expect '-' cs)
  let (fields, cs) ← readField (readDigitsOf 2) .day fields (← expect '-' cs)
  let cs ← (expect 'T' cs).or ((expect 't' cs).or (expect ' ' cs))
  let (fields, cs) ← readHour fields cs
  let (fields, cs) ← readField (readDigitsOf 2) .minute fields (← expect ':' cs)
  let (fields, cs) ← readField (readDigitsOf 2) .second fields (← expect ':' cs)
  let (fields, cs) ← match expect '.' cs with
    | some cs => readField readFraction .nanosecond fields cs
    | none => some (fields, cs)
  let (offset, cs) ← readOffset ⟨true, false, true⟩ (expect ':') cs
  if offset.natAbs ≤ maxStampOffset ∧ cs = [] then fields.set? .offset offset else none

/-! ## Dates of mail -/

/-- Reads the week day at the start of a date, if there is one; a comma has to follow it. -/
def readMailWeekday (cs : List Char) : Option (Fields × List Char) :=
  match readName false cs weekdayNames with
  | none => some (Fields.none, cs)
  | some (i, rest) => do
    let rest ← expect ',' rest
    return (← Fields.none.set? .weekday i, rest)

/-- The year of a number of so many digits: years of two digits are from 1950 to 2049, and years of
three digits are counted from 1900. -/
def mailYear (digits : Nat) (n : Int) : Int :=
  if digits = 2 then if n ≤ 49 then n + 2000 else n + 1900
  else if digits = 3 then n + 1900
  else n

/-- Reads a year of at least two digits. -/
def readMailYear (fields : Fields) (cs : List Char) : Option (Fields × List Char) := do
  let (n, rest) ← readNumber 2 none cs
  return (← fields.set? .year (mailYear (cs.length - rest.length) n), rest)

/-- The offsets of time zones that have a name, in hours. -/
def zoneOffsets : List (List Char × Int) :=
  [("gmt", 0), ("ut", 0), ("z", 0), ("edt", -4), ("est", -5), ("cdt", -5), ("cst", -6), ("mdt", -6),
    ("mst", -7), ("pdt", -7), ("pst", -8)].map fun (name, hours) => (name.toList, hours)

/-- The offset of the name of a time zone in minutes. Single letters mean nothing, except `j`, which
is none. -/
def offsetOfZone? (name : List Char) : Option Int :=
  match zoneOffsets.find? (·.1 == name) with
  | some (_, hours) => some (hours * 60)
  | none => if name.length = 1 ∧ name ≠ ['j'] then some 0 else none

/-- Reads an offset: the name of a time zone, or hours and minutes. -/
def readMailOffset (cs : List Char) : Option (Int × List Char) :=
  match cs.takeWhile Char.isAlpha with
  | [] => readOffset ⟨false, false, false⟩ some cs
  | name => (offsetOfZone? (name.map lowerAscii)).map fun n => (n, cs.dropWhile Char.isAlpha)

/-- Reads the date of a mail. -/
def readMailDate? (cs : List Char) : Option Fields := do
  let (fields, cs) ← readMailWeekday (trimStart cs)
  let (fields, cs) ← readField (readNumber 1 (some 2)) .day fields (trimStart cs)
  let (month, cs) ← readName false (← readBlanks cs) monthNames
  let fields ← fields.set? .month (month + 1)
  let (fields, cs) ← readMailYear fields (← readBlanks cs)
  let (fields, cs) ← readHour fields (← readBlanks cs)
  let cs ← expect ':' (trimStart cs)
  let (fields, cs) ← readField (readDigitsOf 2) .minute fields (trimStart cs)
  let (fields, cs) ← match expect ':' (trimStart cs) with
    | some cs => readField (readDigitsOf 2) .second fields cs
    | none => some (fields, cs)
  let (fields, cs) ← readField readMailOffset .offset fields (← readBlanks cs)
  if skipComments cs = [] then some fields else none

end CheckScript.Calendar
