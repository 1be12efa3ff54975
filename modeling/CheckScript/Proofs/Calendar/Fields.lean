import Mathlib.Data.Option.Basic
import CheckScript.Calendar.Internet
import CheckScript.Proofs.Calendar.Scan

/-!
# Times from their parts

Messages write a time by its parts (`Parts`): perhaps the week day, the year, the month and the day,
the time of day perhaps to the second or to a part of it, and the offset. They are the time of a
place iff there is such a time and the week day is that of the date (`Parts.Valid`,
`Parts.zonedTime?_fields_eq_some_iff`).
-/

namespace CheckScript.Calendar

open Text

/-! ## Giving values to fields -/

namespace Fields

variable {fields fields' : Fields} {field : Field} {value : Int}

/-- Fields of which one has been given a value. -/
def put (fields : Fields) (field : Field) (value : Int) : Fields :=
  fun other => if other = field then some value else fields other

/-- Fields of which one has been given a value, if there is one. -/
def putGiven (fields : Fields) (field : Field) : Option Nat → Fields
  | .none => fields
  | some n => fields.put field n

theorem putGiven_of_ne {given : Option Nat} {other : Field} (h : other ≠ field) :
    fields.putGiven field given other = fields other := by
  cases given with
  | none => rfl
  | some n => exact if_neg h

theorem set?_eq_some_iff (hnone : fields field = .none) :
    fields.set? field value = some fields'
      ↔ (field.bounds.1 ≤ value ∧ value ≤ field.bounds.2) ∧ fields' = fields.put field value := by
  rw [set?, hnone, Option.all_none]
  split
  case isTrue h => exact ⟨fun heq => ⟨⟨h.1, h.2.1⟩, (Option.some.inj heq).symm⟩, fun h => h.2 ▸ rfl⟩
  case isFalse h => exact ⟨nofun, fun h' => absurd ⟨h'.1.1, h'.1.2, rfl⟩ h⟩

end Fields

/-! ## Parts -/

/-- What a message says about a time. -/
structure Parts where
  weekday : Option Nat
  year : Nat
  month : Nat
  day : Nat
  hour : Nat
  minute : Nat
  second : Option Nat
  nanosecond : Option Nat
  offset : Int

namespace Parts

/-- The time that the parts are those of; what is less than a minute and not there is zero. -/
def time (p : Parts) : ZonedTime where
  localTime := ⟨⟨p.year, p.month, p.day⟩,
    ⟨p.hour, p.minute, p.second.getD 0, p.nanosecond.getD 0⟩⟩
  offset := p.offset

/-- There is a time with these parts. The second may be a leap second. -/
structure Valid (p : Parts) : Prop where
  year_le : (p.year : Int) ≤ maxYear
  day_pos : 1 ≤ p.day
  day_le : p.day ≤ daysInMonth p.year p.month
  weekday : ∀ weekday ∈ p.weekday, p.time.localTime.date.weekday = weekday
  hour_lt : p.hour < 24
  minute_lt : p.minute < 60
  second_le : ∀ second ∈ p.second, second ≤ 60
  offset_lt : p.offset.natAbs < 24 * 60

/-- The fields that have been given when all parts have been read. -/
def fields (p : Parts) : Fields
  | .weekday => p.weekday.map Nat.cast
  | .year => some p.year
  | .month => some p.month
  | .day => some p.day
  | .half => some (p.hour / 12)
  | .hourOfHalf => some (p.hour % 12)
  | .minute => some p.minute
  | .second => p.second.map Nat.cast
  | .nanosecond => p.nanosecond.map Nat.cast
  | .offset => some p.offset
  | _ => none

theorem month_of_day {p : Parts} (h : p.Valid) : 1 ≤ p.month ∧ p.month ≤ 12 := by
  have hdays : daysInMonth p.year p.month ≠ 0 := by
    have h1 := h.day_pos
    have h2 := h.day_le
    omega
  by_contra hmonth
  refine hdays ?_
  unfold daysInMonth
  split <;> first | rfl | omega

theorem day_le_of_valid {p : Parts} (h : p.Valid) : p.day ≤ 31 := by
  refine Nat.le_trans h.day_le ?_
  unfold daysInMonth
  repeat' split
  all_goals decide

/-- The parts that each are those of some time. -/
structure Bounded (p : Parts) : Prop where
  month : 1 ≤ p.month ∧ p.month ≤ 12
  day : 1 ≤ p.day ∧ p.day ≤ 31
  hour_lt : p.hour < 24
  minute_lt : p.minute < 60
  second_le : ∀ second ∈ p.second, second ≤ 60

theorem Valid.bounded {p : Parts} (h : p.Valid) : p.Bounded :=
  ⟨month_of_day h, ⟨h.day_pos, day_le_of_valid h⟩, h.hour_lt, h.minute_lt, h.second_le⟩

/-- The date of the parts, if there is one with their week day. -/
theorem date_fields (p : Parts) :
    p.fields.date = match Date.ofYmd? p.year p.month p.day with
      | none => .error .wrong
      | some date =>
        if p.weekday.all (· == date.weekday) then .ok date else .error .wrong := by
  have hagrees (date : Date) : ((p.fields.agreesOnIsoWeek date && p.fields.agreesOnCount date)
      && p.fields.agrees .quarter date.quarter) = p.weekday.all (· == date.weekday) := by
    simp only [Fields.agreesOnIsoWeek, Fields.agreesOnCount, Fields.agreesOnDigits, Fields.agrees,
      fields, Option.all_none, Option.isNone_none, Bool.and_true, Bool.true_and, ite_self]
    cases p.weekday <;> simp
  have hdate : p.fields.date = p.fields.checked (Date.ofYmd? p.year p.month p.day) fun date =>
      p.fields.agreesOnIsoWeek date && p.fields.agreesOnCount date := rfl
  rw [hdate]
  unfold Fields.checked
  cases Date.ofYmd? p.year p.month p.day with
  | none => rfl
  | some date => simp only [hagrees]

/-- The time of day of the parts. -/
theorem time_fields {p : Parts} (hsecond : p.second = none → p.nanosecond = none) :
    p.fields.time = .ok p.time.localTime.time := by
  have hhour : ((p.hour : Int) / 12).toNat * 12 + ((p.hour : Int) % 12).toNat = p.hour := by omega
  unfold Fields.time Fields.nat?
  obtain ⟨weekday, year, month, day, hour, minute, second, nanosecond, offset⟩ := p
  cases second <;> cases nanosecond <;> simp_all [fields, time]

/-- The local time of the parts, where there is one. -/
theorem localTime?_fields_eq_some_iff {p : Parts} (hsecond : p.second = none → p.nanosecond = none)
    {offset : Int} {t : LocalTime} :
    p.fields.localTime? offset = some t
      ↔ t = p.time.localTime ∧ Date.ofYmd? p.year p.month p.day = some t.date
        ∧ ∀ weekday ∈ p.weekday, t.date.weekday = weekday := by
  have htimestamp : p.fields .timestamp = none := rfl
  have htime := time_fields hsecond
  have hdate := date_fields p
  unfold Fields.localTime?
  cases hymd : Date.ofYmd? p.year p.month p.day with
  | none =>
    rw [hymd] at hdate
    simp only [hdate]
    exact ⟨nofun, nofun⟩
  | some date =>
    have hparts : date = p.time.localTime.date := by
      unfold Date.ofYmd? at hymd
      split at hymd <;> cases hymd
      rfl
    rw [hymd] at hdate
    dsimp only at hdate
    split at hdate
    case isTrue hweekday =>
      simp only [hdate, htime, htimestamp, Option.all_none, if_true]
      constructor
      · intro h
        cases h
        refine ⟨by rw [hparts], rfl, fun weekday hmem => ?_⟩
        rw [hmem] at hweekday
        exact (eq_of_beq hweekday).symm
      · rintro ⟨rfl, -, -⟩
        rw [hparts]
    case isFalse hweekday =>
      simp only [hdate]
      refine ⟨nofun, fun ⟨hlocal, heq, hall⟩ => absurd ?_ hweekday⟩
      cases heq
      cases hgiven : p.weekday with
      | none => rfl
      | some weekday => exact beq_iff_eq.mpr (hall weekday hgiven).symm

/-- **Parts make a time iff there is one with these parts.** -/
theorem zonedTime?_fields_eq_some_iff {p : Parts} (hsecond : p.second = none → p.nanosecond = none)
    (hhour : p.hour < 24) (hminute : p.minute < 60) (hle : ∀ second ∈ p.second, second ≤ 60)
    {t : ZonedTime} :
    p.fields.zonedTime? = some t ↔ p.Valid ∧ t = p.time ∧ t.utcDate?.isSome = true := by
  have hoffset : p.fields .offset = some p.offset := rfl
  simp only [Fields.zonedTime?, hoffset, Option.some_or, Option.bind_eq_bind, Option.bind_some,
    Option.bind_eq_some_iff, localTime?_fields_eq_some_iff hsecond, Option.ite_none_right_eq_some]
  constructor
  · rintro ⟨_, ⟨rfl, hdate, hweekday⟩, ⟨hlt, hutc⟩, heq⟩
    cases heq
    unfold Date.ofYmd? at hdate
    split at hdate
    case isTrue h =>
      obtain ⟨-, hyear, hpos, hday⟩ := h
      exact ⟨⟨hyear, hpos, hday, hweekday, hhour, hminute, hle, hlt⟩, rfl, hutc⟩
    case isFalse => cases hdate
  · rintro ⟨hvalid, rfl, hutc⟩
    have hyear : minYear ≤ p.year := by
      unfold minYear
      omega
    have hdate : Date.ofYmd? p.year p.month p.day = some p.time.localTime.date :=
      if_pos ⟨hyear, hvalid.year_le, hvalid.day_pos, hvalid.day_le⟩
    exact ⟨_, ⟨rfl, hdate, hvalid.weekday⟩, ⟨hvalid.offset_lt, hutc⟩, rfl⟩

/-- The fields tell what the time is. -/
theorem time_eq_of_fields_eq {p q : Parts} (h : p.fields = q.fields) : p.time = q.time := by
  have hfield (field : Field) : p.fields field = q.fields field := congrFun h field
  have hyear := hfield .year
  have hmonth := hfield .month
  have hday := hfield .day
  have hhalf := hfield .half
  have hhour := hfield .hourOfHalf
  have hminute := hfield .minute
  have hsecond := hfield .second
  have hnanosecond := hfield .nanosecond
  have hoffset := hfield .offset
  obtain ⟨weekday, year, month, day, hour, minute, second, nanosecond, offset⟩ := p
  obtain ⟨weekday', year', month', day', hour', minute', second', nanosecond', offset'⟩ := q
  simp only [fields, Option.some.injEq] at *
  simp only [time, ZonedTime.mk.injEq, LocalTime.mk.injEq, Date.mk.injEq, Time.mk.injEq]
  have hcast : Function.Injective (Nat.cast : Nat → Int) := fun _ _ => Int.ofNat_inj.mp
  rw [Option.map_injective hcast hsecond, Option.map_injective hcast hnanosecond]
  omega

section

/-! A reader that gives the fields of just those parts that a text has (`Written`) and that the
reader takes (`Allowed`). -/

variable {read : Option Fields} {Written Allowed : Parts → Prop}
  (hread : ∀ fields, read = some fields
    ↔ ∃ p, Written p ∧ p.Bounded ∧ Allowed p ∧ fields = p.fields)
  (hallowed : ∀ p : Parts, p.Valid → Allowed p)

include hread hallowed

/-- **The times that a reader gives** are those with the parts that are written, if they can be
handled. -/
theorem bind_zonedTime?_iff (hsecond : ∀ p, Written p → p.second = none → p.nanosecond = none)
    {t : ZonedTime} :
    read.bind Fields.zonedTime? = some t
      ↔ ∃ p, Written p ∧ p.Valid ∧ t = p.time ∧ t.utcDate?.isSome = true := by
  rw [Option.bind_eq_some_iff]
  constructor
  · rintro ⟨_, hfields, hzoned⟩
    obtain ⟨p, hwritten, hbounded, -, rfl⟩ := (hread _).mp hfields
    obtain ⟨hvalid, rfl, hutc⟩ := (zonedTime?_fields_eq_some_iff (hsecond p hwritten)
      hbounded.hour_lt hbounded.minute_lt hbounded.second_le).mp hzoned
    exact ⟨p, hwritten, hvalid, rfl, hutc⟩
  · rintro ⟨p, hwritten, hvalid, rfl, hutc⟩
    refine ⟨p.fields, (hread _).mpr ⟨p, hwritten, hvalid.bounded, hallowed p hvalid, rfl⟩, ?_⟩
    exact (zonedTime?_fields_eq_some_iff (hsecond p hwritten) hvalid.hour_lt hvalid.minute_lt
      hvalid.second_le).mpr ⟨hvalid, rfl, hutc⟩

theorem read_eq_of_written {p : Parts} (hp : Written p) (hvalid : p.Valid) :
    read = some p.fields :=
  (hread _).mpr ⟨p, hp, hvalid.bounded, hallowed p hvalid, rfl⟩

/-- What is written is one time only. -/
theorem time_eq_of_written {p q : Parts} (hp : Written p) (hpv : p.Valid) (hq : Written q)
    (hqv : q.Valid) : p.time = q.time :=
  time_eq_of_fields_eq (Option.some.inj ((read_eq_of_written hread hallowed hp hpv).symm.trans
    (read_eq_of_written hread hallowed hq hqv)))

end

end Parts

/-! ## Reading fields

Each statement is about a reader and what goes on behind it, so that a chain of readers is taken
apart from the front.
-/

section Reading

variable {cs : List Char} {fields fields' : Fields} {field : Field} {α : Type} {answer : α}

/-- A value that a field can have. -/
def Field.Allows (field : Field) (value : Int) : Prop :=
  field.bounds.1 ≤ value ∧ value ≤ field.bounds.2

theorem Field.allows_year_iff {n : Nat} : Field.year.Allows n ↔ n < 2 ^ 31 := by
  have hpow : Nat.pow 2 31 = 2 ^ 31 := rfl
  simp only [Field.Allows, Field.bounds, hpow]
  omega

theorem Field.allows_month_iff {n : Nat} : Field.month.Allows n ↔ 1 ≤ n ∧ n ≤ 12 := by
  simp only [Field.Allows, Field.bounds]
  omega

theorem Field.allows_day_iff {n : Nat} : Field.day.Allows n ↔ 1 ≤ n ∧ n ≤ 31 := by
  simp only [Field.Allows, Field.bounds]
  omega

theorem Field.allows_minute_iff {n : Nat} : Field.minute.Allows n ↔ n < 60 := by
  simp only [Field.Allows, Field.bounds]
  omega

theorem Field.allows_second_iff {n : Nat} : Field.second.Allows n ↔ n ≤ 60 := by
  simp only [Field.Allows, Field.bounds]
  omega

theorem Field.allows_nanosecond_iff {n : Nat} : Field.nanosecond.Allows n ↔ n < 10 ^ 9 := by
  simp only [Field.Allows, Field.bounds]
  omega

theorem Field.allows_offset_iff {offset : Int} :
    Field.offset.Allows offset ↔ offset.natAbs < 100 * 60 := by
  simp only [Field.Allows, Field.bounds]
  omega

theorem bind_expect_iff {c : Char} {next : List Char → Option α} :
    (expect c cs).bind next = some answer ↔ ∃ rest, cs = c :: rest ∧ next rest = some answer := by
  simp only [Option.bind_eq_some_iff, expect_eq_some_iff]

theorem bind_readField_iff {read : List Char → Option (Int × List Char)}
    {next : Fields × List Char → Option α} (hnone : fields field = none) :
    (readField read field fields cs).bind next = some answer
      ↔ ∃ n rest, read cs = some (n, rest) ∧ field.Allows n
          ∧ next (fields.put field n, rest) = some answer := by
  simp only [readField, Option.bind_eq_bind, Option.bind_eq_some_iff, Prod.exists,
    Fields.set?_eq_some_iff hnone, Option.pure_def, Option.some.injEq, Prod.mk.injEq]
  constructor
  · rintro ⟨_, _, ⟨n, rest, hread, _, ⟨hallows, rfl⟩, rfl, rfl⟩, hnext⟩
    exact ⟨n, rest, hread, hallows, hnext⟩
  · rintro ⟨n, rest, hread, hallows, hnext⟩
    exact ⟨_, _, ⟨n, rest, hread, _, ⟨hallows, rfl⟩, rfl, rfl⟩, hnext⟩

/-- A field that is written with a number of digits. -/
theorem bind_readDigits_iff {count : Nat} {next : Fields × List Char → Option α}
    (hnone : fields field = none) :
    (readField (readDigitsOf count) field fields cs).bind next = some answer
      ↔ ∃ (digits : List Char) (n : Nat) (rest : List Char), cs = digits ++ rest
          ∧ Numeral count digits n ∧ field.Allows n
          ∧ next (fields.put field n, rest) = some answer := by
  simp only [bind_readField_iff hnone, readDigitsOf_eq_some_iff]
  constructor
  · rintro ⟨_, rest, ⟨digits, n, rfl, hdigits, rfl⟩, hallows, hnext⟩
    exact ⟨digits, n, rest, rfl, hdigits, hallows, hnext⟩
  · rintro ⟨digits, n, rest, rfl, hdigits, hallows, hnext⟩
    exact ⟨n, rest, ⟨digits, n, rfl, hdigits, rfl⟩, hallows, hnext⟩

/-- Fields with an hour of the day. -/
def Fields.putHour (fields : Fields) (hour : Nat) : Fields :=
  (fields.put .half (hour / 12)).put .hourOfHalf (hour % 12)

theorem setHour?_eq_some_iff {hour : Nat} (hhalf : fields .half = none)
    (hhour : fields .hourOfHalf = none) (hlt : hour < 24) :
    fields.setHour? hour = some fields' ↔ fields' = fields.putHour hour := by
  have hother : fields.put .half ((hour : Int) / 12) .hourOfHalf = none := hhour
  have hfirst : Field.half.Allows ((hour : Int) / 12) := by
    simp only [Field.Allows, Field.bounds]
    omega
  have hsecond : Field.hourOfHalf.Allows ((hour : Int) % 12) := by
    simp only [Field.Allows, Field.bounds]
    omega
  have hset := (Fields.set?_eq_some_iff hhalf).mpr ⟨hfirst, rfl⟩
  rw [Fields.setHour?, hset, Option.bind_eq_bind, Option.bind_some,
    Fields.set?_eq_some_iff hother]
  exact and_iff_right hsecond

theorem bind_readHour_iff {next : Fields × List Char → Option α} (hhalf : fields .half = none)
    (hhour : fields .hourOfHalf = none) :
    (readHour fields cs).bind next = some answer
      ↔ ∃ (digits : List Char) (n : Nat) (rest : List Char), cs = digits ++ rest
          ∧ Numeral 2 digits n ∧ n < 24 ∧ next (fields.putHour n, rest) = some answer := by
  simp only [readHour, Option.bind_eq_bind, Option.bind_eq_some_iff, Prod.exists,
    readDigitsOf_eq_some_iff]
  constructor
  · rintro ⟨_, _, ⟨_, left, ⟨digits, n, rfl, hdigits, rfl⟩, hread⟩, hnext⟩
    split at hread
    case isFalse => cases hread
    case isTrue hle =>
      obtain ⟨_, hfields, heq⟩ := Option.bind_eq_some_iff.mp hread
      cases heq
      have hlt : n < 24 := by omega
      cases (setHour?_eq_some_iff hhalf hhour hlt).mp hfields
      exact ⟨digits, n, _, rfl, hdigits, hlt, hnext⟩
  · rintro ⟨digits, n, rest, rfl, hdigits, hlt, hnext⟩
    refine ⟨_, _, ⟨n, rest, ⟨digits, n, rfl, hdigits, rfl⟩, ?_⟩, hnext⟩
    rw [if_pos (by omega), (setHour?_eq_some_iff hhalf hhour hlt).mpr rfl]
    rfl

end Reading

end CheckScript.Calendar
