import CheckScript.Calendar.Date
import CheckScript.Text.Digit

/-!
# Times of day, and how dates and times are written

A second may have number 60, the leap second, in any minute. Dates and times are written with two
digits for each part and four for the year; a year that needs more digits or is before year 0 has a
sign and at least four.
-/

namespace CheckScript.Calendar

open Text

/-- A time of day. -/
structure Time where
  hour : Nat
  minute : Nat
  second : Nat
  nanosecond : Nat
  deriving DecidableEq, Repr

/-- A date and a time of day, at no place in particular. -/
structure LocalTime where
  date : Date
  time : Time
  deriving DecidableEq, Repr

/-- A date and a time of day at a place, where clocks are `offset` minutes ahead. -/
structure ZonedTime where
  localTime : LocalTime
  offset : Int
  deriving DecidableEq, Repr

/-! ## Counting seconds -/

/-- The day number of the first day of 1970. -/
def epochDay : Int := 719163

/-- The seconds since the start of 1970; a leap second counts as the one before it. -/
def LocalTime.timestamp (t : LocalTime) : Int :=
  (t.date.dayNumber - epochDay) * 86400 + t.time.hour * 3600 + t.time.minute * 60
    + min t.time.second 59

/-- The time so many seconds after the start of 1970, if its year can be handled. -/
def LocalTime.ofTimestamp? (seconds : Int) : Option LocalTime :=
  let inDay := (seconds % 86400).toNat
  (Date.ofDayNumber? (seconds / 86400 + epochDay)).map fun date =>
    ⟨date, ⟨inDay / 3600, inDay / 60 % 60, inDay % 60, 0⟩⟩

/-- The date at a place where clocks are not ahead, if its year can be handled. -/
def ZonedTime.utcDate? (t : ZonedTime) : Option Date :=
  let minutes : Int := t.localTime.time.hour * 60 + t.localTime.time.minute - t.offset
  t.localTime.date.addDays? (minutes / 1440)

/-! ## Writing -/

/-- A number with two digits. -/
def twoDigits (n : Nat) : List Char := paddedDigits 2 n

/-- A year with four digits, or with a sign and at least four. -/
def yearText (year : Int) : List Char :=
  if 0 ≤ year ∧ year ≤ 9999 then paddedDigits 4 year.toNat
  else (if year < 0 then '-' else '+') :: paddedDigits 4 year.natAbs

/-- A date, as in `2026-10-19`. -/
def Date.text (date : Date) : List Char :=
  yearText date.year ++ '-' :: twoDigits date.month ++ '-' :: twoDigits date.day

/-- A time of day to the second, as in `08:30:00`. -/
def Time.text (time : Time) : List Char :=
  twoDigits time.hour ++ ':' :: twoDigits time.minute ++ ':' :: twoDigits time.second

/-- A date and a time of day to the second, as in `2026-10-19T08:30:00`. -/
def LocalTime.text (t : LocalTime) : List Char := t.date.text ++ 'T' :: t.time.text

/-- A part of a second with three, six or nine digits, as many as it needs; none for no part. -/
def fractionText (nanosecond : Nat) : List Char :=
  if nanosecond = 0 then []
  else if nanosecond % 1000000 = 0 then '.' :: paddedDigits 3 (nanosecond / 1000000)
  else if nanosecond % 1000 = 0 then '.' :: paddedDigits 6 (nanosecond / 1000)
  else '.' :: paddedDigits 9 nanosecond

/-- An offset with its sign, as in `+02:00`. -/
def offsetText (minutes : Int) : List Char :=
  (if minutes < 0 then '-' else '+') :: twoDigits (minutes.natAbs / 60)
    ++ ':' :: twoDigits (minutes.natAbs % 60)

/-- A date and a time of day with its offset, as in `2026-10-19T08:30:00.250+02:00`. -/
def ZonedTime.text (t : ZonedTime) : List Char :=
  t.localTime.text ++ fractionText t.localTime.time.nanosecond ++ offsetText t.offset

end CheckScript.Calendar
