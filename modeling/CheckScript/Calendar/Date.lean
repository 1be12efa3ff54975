/-!
# Dates

Days of the Gregorian calendar, extended to all years; the year before year 1 is year 0. Years are
limited to those that can be handled (`minYear`, `maxYear`).

A date is also a day number (`Date.dayNumber`): the first day of year 1 is day 1. Week days and
weeks are counted with it. Week days are numbered from Monday, which is 0.
-/

namespace CheckScript.Calendar

/-- The first year. -/
def minYear : Int := -262143

/-- The last year. -/
def maxYear : Int := 262142

/-! ## Years and months -/

/-- Whether a year has a leap day. -/
def isLeap (year : Int) : Bool := year % 4 == 0 && (year % 100 != 0 || year % 400 == 0)

/-- The days of a month; there are none in a month that does not exist. -/
def daysInMonth (year : Int) (month : Nat) : Nat :=
  match month with
  | 1 | 3 | 5 | 7 | 8 | 10 | 12 => 31
  | 4 | 6 | 9 | 11 => 30
  | 2 => if isLeap year then 29 else 28
  | _ => 0

/-- The days of the months before a month. -/
def daysBeforeMonth (year : Int) : Nat → Nat
  | 0 => 0
  | month + 1 => daysBeforeMonth year month + daysInMonth year month

/-- The days of a year. -/
def daysInYear (year : Int) : Nat := if isLeap year then 366 else 365

/-- The days between the first day of year 1 and the first day of a year. -/
def daysBeforeYear (year : Int) : Int :=
  365 * (year - 1) + (year - 1) / 4 - (year - 1) / 100 + (year - 1) / 400

/-! ## Dates -/

/-- A day by its year, its month and its number in the month. -/
structure Date where
  year : Int
  month : Nat
  day : Nat
  deriving DecidableEq, Repr

namespace Date

/-- The date of a year, a month and a day, if there is one. -/
def ofYmd? (year : Int) (month day : Nat) : Option Date :=
  if minYear ≤ year ∧ year ≤ maxYear ∧ 1 ≤ day ∧ day ≤ daysInMonth year month then
    some ⟨year, month, day⟩
  else none

/-- The month in which the day `ordinal` of a year lies, searched from a month on. -/
def monthOfOrdinal (year : Int) (ordinal month : Nat) : Nat → Nat
  | 0 => month
  | later + 1 =>
    if ordinal ≤ daysBeforeMonth year (month + 1) then month
    else monthOfOrdinal year ordinal (month + 1) later

/-- The date of a year and a day of the year, if there is one. -/
def ofOrdinal? (year : Int) (ordinal : Nat) : Option Date :=
  if 1 ≤ ordinal ∧ ordinal ≤ daysInYear year then
    let month := monthOfOrdinal year ordinal 1 11
    ofYmd? year month (ordinal - daysBeforeMonth year month)
  else none

/-- The number of the day in its year, from 1. -/
def ordinal (date : Date) : Nat := daysBeforeMonth date.year date.month + date.day

/-- The number of the day; the first day of year 1 is day 1. -/
def dayNumber (date : Date) : Int := daysBeforeYear date.year + date.ordinal

/-- The quarter of the year, from 1. -/
def quarter (date : Date) : Nat := (date.month - 1) / 3 + 1

end Date

/-! ## Day numbers -/

/-- The year of a day, and the number of the day in it. -/
def yearOfDay (dayNumber : Int) : Int × Nat :=
  let fromZero := dayNumber - 1
  let cycle := fromZero / 146097
  let inCycle := (fromZero % 146097).toNat
  let century := min (inCycle / 36524) 3
  let inCentury := inCycle - century * 36524
  let fourYears := inCentury / 1461
  let inFour := inCentury % 1461
  let single := min (inFour / 365) 3
  (400 * cycle + 100 * century + 4 * fourYears + single + 1, inFour - single * 365 + 1)

/-- The date of a day number, if its year can be handled. -/
def Date.ofDayNumber? (dayNumber : Int) : Option Date :=
  let (year, ordinal) := yearOfDay dayNumber
  Date.ofOrdinal? year ordinal

/-- The week day of a day, from Monday. -/
def weekdayOfDay (dayNumber : Int) : Nat := ((dayNumber - 1) % 7).toNat

/-! ## Weeks -/

/-- How many days a week day is behind another. -/
def daysSince (weekday other : Nat) : Nat := (weekday + 7 - other) % 7

namespace Date

/-- The week day, from Monday. -/
def weekday (date : Date) : Nat := weekdayOfDay date.dayNumber

/-- The number of the week in the year, where weeks start at a week day; the days before the first
such day are in week 0. -/
def weekFrom (date : Date) (start : Nat) : Nat :=
  (date.ordinal + 6 - daysSince date.weekday start) / 7

/-- The year that the week of the date belongs to, and the number of the week in it: a week starts
on Monday and belongs to the year of its Thursday. -/
def isoWeek (date : Date) : Int × Nat :=
  let (year, ordinal) := yearOfDay (date.dayNumber - date.weekday + 3)
  (year, (ordinal - 1) / 7 + 1)

/-- The date of a year, a week that starts at a week day, and a week day, if it is in the year. -/
def ofWeek? (year : Int) (week weekday start : Nat) : Option Date :=
  let firstWeek := 1 + daysSince start (weekdayOfDay (daysBeforeYear year + 1))
  let ordinal := firstWeek + 7 * week + daysSince weekday start
  if ordinal ≤ 7 then none else ofOrdinal? year (ordinal - 7)

/-- The Monday of the first week of a year, the week that has the fourth of January in it. -/
def firstMonday (year : Int) : Int :=
  daysBeforeYear year + 4 - weekdayOfDay (daysBeforeYear year + 4)

/-- The date of a week that belongs to a year, and a week day, if there is one. -/
def ofIsoWeek? (year : Int) (week weekday : Nat) : Option Date :=
  if 1 ≤ week ∧ firstMonday year + 7 * week ≤ firstMonday (year + 1) then
    ofDayNumber? (firstMonday year + 7 * (week - 1 : Nat) + weekday)
  else none

/-- The day before or after, or the same day: so many days later, if its year can be handled. -/
def addDays? (date : Date) (days : Int) : Option Date := ofDayNumber? (date.dayNumber + days)

end Date

example : (Date.mk 2026 10 19).weekday = 0 := by decide
example : (Date.mk 2027 1 1).isoWeek = (2026, 53) := by decide
example : Date.ofDayNumber? (Date.mk 2024 2 29).dayNumber = some ⟨2024, 2, 29⟩ := by decide

end CheckScript.Calendar
