import CheckScript.Calendar.Time

/-!
# From fields to dates and times

What a text says about a time comes field by field (`Field`): a year, a month, a week day, and so
on. `Fields` collects them; a field cannot be given two values.

Fields that are enough for a date or a time of day make one (`Fields.date`, `Fields.time`), and then
all other fields have to agree with it. A date can be given by year, month and day, by the day of
the year, by a week and a week day, or by the week of an ISO year and a week day; a year can be
given by its last two digits. A timestamp stands for everything that is missing.

Fields that are not enough (`Gap.missing`) are told apart from fields that are wrong (`Gap.wrong`):
a timestamp can make up for the former only.
-/

namespace CheckScript.Calendar

/-- Something that can be said about a time. -/
inductive Field where
  | year
  /-- The year without its last two digits. -/
  | century
  /-- The last two digits of the year. -/
  | yearOfCentury
  | isoYear
  | isoCentury
  | isoYearOfCentury
  | quarter
  | month
  | day
  /-- The day of the year. -/
  | ordinal
  /-- The week of the year, where weeks start on Sunday. -/
  | sundayWeek
  /-- The week of the year, where weeks start on Monday. -/
  | mondayWeek
  | isoWeek
  /-- The week day, from Monday, which is 0. -/
  | weekday
  /-- Whether it is before or after noon. -/
  | half
  /-- The hour since midnight or noon. -/
  | hourOfHalf
  | minute
  | second
  | nanosecond
  /-- The seconds since the start of 1970. -/
  | timestamp
  /-- How many minutes clocks are ahead at the place. -/
  | offset
  deriving DecidableEq, Repr

/-- The least and the greatest value of a field. -/
def Field.bounds : Field → Int × Int
  | .year | .isoYear => (-Nat.pow 2 31, Nat.pow 2 31 - 1)
  | .century | .isoCentury => (0, Nat.pow 2 31 - 1)
  | .yearOfCentury | .isoYearOfCentury => (0, 99)
  | .quarter => (1, 4)
  | .month => (1, 12)
  | .day => (1, 31)
  | .ordinal => (1, 366)
  | .sundayWeek | .mondayWeek => (0, 53)
  | .isoWeek => (1, 53)
  | .weekday => (0, 6)
  | .half => (0, 1)
  | .hourOfHalf => (0, 11)
  | .minute => (0, 59)
  | .second => (0, 60)
  | .nanosecond => (0, 999999999)
  | .timestamp => (-Nat.pow 2 63, Nat.pow 2 63 - 1)
  | .offset => (-99 * 60 - 59, 99 * 60 + 59)

/-- The values of the fields that have been given. -/
abbrev Fields := Field → Option Int

/-- Why fields make no date or time. -/
inductive Gap where
  /-- They are not enough. -/
  | missing
  /-- They contradict each other, or nothing has these values. -/
  | wrong
  deriving DecidableEq, Repr

namespace Fields

/-- No fields. -/
def none : Fields := fun _ => .none

/-- Gives a field a value: one that it can have, and no other than it has. -/
def set? (fields : Fields) (field : Field) (value : Int) : Option Fields :=
  if field.bounds.1 ≤ value ∧ value ≤ field.bounds.2 ∧ (fields field).all (· == value) then
    some fun other => if other = field then some value else fields other
  else .none

/-- Gives an hour of the day. -/
def setHour? (fields : Fields) (hour : Int) : Option Fields := do
  (← fields.set? .half (hour / 12)).set? .hourOfHalf (hour % 12)

/-- Whether a field has not been given, or has this value. -/
def agrees (fields : Fields) (field : Field) (value : Int) : Bool :=
  (fields field).all (· == value)

/-- A natural number that has been given. -/
def nat? (fields : Fields) (field : Field) : Option Nat := (fields field).map Int.toNat

/-! ## Years -/

/-- The year that three fields give: the year itself, or its first and last digits, or its last two
digits alone, which are of this century up to 69 and of the last from 70. -/
def resolveYear (whole century rest : Option Int) : Except Gap (Option Int) :=
  match whole, century, rest with
  | whole, .none, .none => .ok whole
  | some year, century, rest =>
    if 0 ≤ year ∧ century.all (· == year / 100) ∧ rest.all (· == year % 100) then .ok (some year)
    else .error .wrong
  | .none, some century, some rest => .ok (some (century * 100 + rest))
  | .none, .none, some rest => .ok (some (rest + if rest < 70 then 2000 else 1900))
  | .none, some _, .none => .error .missing

/-- Whether the digits of a year that have been given are those of a year. -/
def agreesOnDigits (fields : Fields) (first last : Field) (year : Int) : Bool :=
  if 0 ≤ year then fields.agrees first (year / 100) && fields.agrees last (year % 100)
  else (fields first).isNone && (fields last).isNone

/-! ## Dates -/

/-- Whether the date is in the year and month and on the day that have been given. -/
def agreesOnDay (fields : Fields) (date : Date) : Bool :=
  fields.agrees .year date.year && fields.agreesOnDigits .century .yearOfCentury date.year
    && fields.agrees .month date.month && fields.agrees .day date.day

/-- Whether the date is in the ISO year and week and on the week day that have been given. -/
def agreesOnIsoWeek (fields : Fields) (date : Date) : Bool :=
  fields.agrees .isoYear date.isoWeek.1
    && fields.agreesOnDigits .isoCentury .isoYearOfCentury date.isoWeek.1
    && fields.agrees .isoWeek date.isoWeek.2 && fields.agrees .weekday date.weekday

/-- Whether the date is the day of the year and in the weeks of the year that have been given. -/
def agreesOnCount (fields : Fields) (date : Date) : Bool :=
  fields.agrees .ordinal date.ordinal && fields.agrees .sundayWeek (date.weekFrom 6)
    && fields.agrees .mondayWeek (date.weekFrom 0)

/-- A date, if it exists and the other fields agree with it. -/
def checked (fields : Fields) (date : Option Date) (agrees : Date → Bool) : Except Gap Date :=
  match date with
  | .none => .error .wrong
  | some date =>
    if agrees date && fields.agrees .quarter date.quarter then .ok date else .error .wrong

/-- The date that the fields give. -/
def date (fields : Fields) : Except Gap Date := do
  let year ← resolveYear (fields .year) (fields .century) (fields .yearOfCentury)
  let isoYear ← resolveYear (fields .isoYear) (fields .isoCentury) (fields .isoYearOfCentury)
  match year, fields.nat? .month, fields.nat? .day with
  | some year, some month, some day =>
    fields.checked (Date.ofYmd? year month day) fun date =>
      fields.agreesOnIsoWeek date && fields.agreesOnCount date
  | _, _, _ =>
  match year, fields.nat? .ordinal with
  | some year, some ordinal =>
    fields.checked (Date.ofOrdinal? year ordinal) fun date =>
      fields.agreesOnDay date && fields.agreesOnIsoWeek date && fields.agreesOnCount date
  | _, _ =>
  match year, fields.nat? .sundayWeek, fields.nat? .weekday with
  | some year, some week, some weekday =>
    fields.checked (Date.ofWeek? year week weekday 6) fun date =>
      fields.agreesOnDay date && fields.agreesOnIsoWeek date && fields.agreesOnCount date
  | _, _, _ =>
  match year, fields.nat? .mondayWeek, fields.nat? .weekday with
  | some year, some week, some weekday =>
    fields.checked (Date.ofWeek? year week weekday 0) fun date =>
      fields.agreesOnDay date && fields.agreesOnIsoWeek date && fields.agreesOnCount date
  | _, _, _ =>
  match isoYear, fields.nat? .isoWeek, fields.nat? .weekday with
  | some isoYear, some week, some weekday =>
    fields.checked (Date.ofIsoWeek? isoYear week weekday) fun date =>
      fields.agreesOnDay date && fields.agreesOnCount date
  | _, _, _ => .error .missing

/-! ## Times -/

/-- The time of day that the fields give; parts of a second need a second. -/
def time (fields : Fields) : Except Gap Time :=
  match fields.nat? .half, fields.nat? .hourOfHalf, fields.nat? .minute with
  | some half, some hour, some minute =>
    match fields.nat? .second, fields.nat? .nanosecond with
    | .none, some _ => .error .missing
    | second, nanosecond =>
      .ok ⟨half * 12 + hour, minute, second.getD 0, nanosecond.getD 0⟩
  | _, _, _ => .error .missing

/-- The date and time of day that a timestamp gives, at a place where clocks are `offset` minutes
ahead; the fields that have been given have to agree. A second of number 60 is the one that has just
ended or is about to. -/
def fromTimestamp (fields : Fields) (offset timestamp : Int) : Option LocalTime := do
  let given ← LocalTime.ofTimestamp? (timestamp + offset * 60)
  let (start, fields) ←
    if fields .second = some 60 then
      match given.time.second with
      | 59 => some (given, fields)
      | 0 => (LocalTime.ofTimestamp? (timestamp + offset * 60 - 1)).map fun t => (t, fields)
      | _ => .none
    else (fields.set? .second given.time.second).map fun fields => (given, fields)
  let fields ← fields.set? .year start.date.year
  let fields ← fields.set? .ordinal start.date.ordinal
  let fields ← fields.setHour? start.time.hour
  let fields ← fields.set? .minute start.time.minute
  match fields.date, fields.time with
  | .ok date, .ok time => some ⟨date, time⟩
  | _, _ => .none

/-- Whether a timestamp is that of a date and time of day at a place. -/
def isTimestampOf (timestamp : Int) (t : LocalTime) (offset : Int) : Bool :=
  timestamp == t.timestamp - offset * 60
    || (t.time.second == 60 && timestamp == t.timestamp - offset * 60 + 1)

/-- The date and time of day that the fields give, at a place where clocks are `offset` minutes
ahead. -/
def localTime? (fields : Fields) (offset : Int) : Option LocalTime :=
  match fields.date, fields.time with
  | .ok date, .ok time =>
    if (fields .timestamp).all (isTimestampOf · ⟨date, time⟩ offset) then some ⟨date, time⟩
    else .none
  | .error .wrong, _ => .none
  | _, .error .wrong => .none
  | _, _ => (fields .timestamp).bind (fields.fromTimestamp offset)

/-- The date and time of day with the offset of the place. A timestamp without an offset is one of a
place where clocks are not ahead. -/
def zonedTime? (fields : Fields) : Option ZonedTime := do
  let offset ← (fields .offset).or ((fields .timestamp).map fun _ => 0)
  let t ← fields.localTime? offset
  let zoned : ZonedTime := ⟨t, offset⟩
  if offset.natAbs < 1440 ∧ zoned.utcDate?.isSome then some zoned else .none

end Fields

end CheckScript.Calendar
