import CheckScript.Proofs.Calendar.Fields

/-!
# Time stamps

What a time stamp is (`IsStamp`), that just these are read (`readStamp?_eq_some_iff`), and that a
time with a year of four digits is written as one (`isStamp_text`).
-/

namespace CheckScript.Calendar

open Text

variable {cs : List Char} {fields fields' : Fields} {α : Type} {answer : α}

/-! ## Stamps -/

/-- A part of a second as it is written, if there is one. -/
inductive IsFraction : List Char → Option Nat → Prop
  | none : IsFraction [] none
  | digits {digits : List Char} (hne : digits ≠ []) (hdigits : ∀ c ∈ digits, isDigit c = true) :
      IsFraction ('.' :: digits) (some (nanosecondsOf digits))

/-- A time stamp, as in `2026-10-19T08:30:00.250+02:00`, and its parts. -/
inductive IsStamp : List Char → Parts → Prop
  | mk {yearDigits monthDigits dayDigits hourDigits minuteDigits secondDigits : List Char}
      {year month day hour minute second : Nat} {separator : Char} {fractionText : List Char}
      {nanosecond : Option Nat} {offsetText : List Char} {offset : Int}
      (hyear : Numeral 4 yearDigits year) (hmonth : Numeral 2 monthDigits month)
      (hday : Numeral 2 dayDigits day)
      (hseparator : separator = 'T' ∨ separator = 't' ∨ separator = ' ')
      (hhour : Numeral 2 hourDigits hour) (hminute : Numeral 2 minuteDigits minute)
      (hsecond : Numeral 2 secondDigits second) (hfraction : IsFraction fractionText nanosecond)
      (hoffset : IsOffset ⟨true, false, true⟩ [':'] offsetText offset) :
      IsStamp (yearDigits ++ '-' :: (monthDigits ++ '-' :: (dayDigits ++ separator :: (hourDigits
          ++ ':' :: (minuteDigits ++ ':' :: (secondDigits ++ (fractionText ++ offsetText)))))))
        ⟨none, year, month, day, hour, minute, some second, nanosecond, offset⟩

theorem bind_readSeparator_iff {next : List Char → Option α} :
    ((expect 'T' cs).or ((expect 't' cs).or (expect ' ' cs))).bind next = some answer
      ↔ ∃ separator rest, cs = separator :: rest
          ∧ (separator = 'T' ∨ separator = 't' ∨ separator = ' ') ∧ next rest = some answer := by
  cases cs with
  | nil => simp [expect]
  | cons c cs =>
    simp only [expect]
    split_ifs <;> simp_all

/-- The offset at the end of a time stamp. -/
theorem readStampOffset_iff (hoffset : fields .offset = none) :
    (do
      let (offset, cs) ← readOffset ⟨true, false, true⟩ (expect ':') cs
      if offset.natAbs ≤ maxStampOffset ∧ cs = [] then fields.set? .offset offset else none)
        = some fields'
      ↔ ∃ offset, IsOffset ⟨true, false, true⟩ [':'] cs offset ∧ offset.natAbs ≤ maxStampOffset
          ∧ fields' = fields.put .offset offset := by
  have hread {offset : Int} {rest : List Char} :
      readOffset ⟨true, false, true⟩ (expect ':') cs = some (offset, rest)
        ↔ ∃ text, cs = text ++ rest ∧ IsOffset ⟨true, false, true⟩ [':'] text offset :=
    readOffset_eq_some_iff rfl fun _ _ => expect_eq_some_iff
  simp only [Option.bind_eq_bind, Option.bind_eq_some_iff, Prod.exists, hread]
  constructor
  · rintro ⟨offset, rest, ⟨text, rfl, htext⟩, hset⟩
    split at hset
    case isFalse => cases hset
    case isTrue hend =>
      obtain ⟨hle, rfl⟩ := hend
      rw [List.append_nil]
      exact ⟨offset, htext, hle, ((Fields.set?_eq_some_iff hoffset).mp hset).2⟩
  · rintro ⟨offset, htext, hle, rfl⟩
    refine ⟨offset, [], ⟨cs, (List.append_nil cs).symm, htext⟩, ?_⟩
    rw [if_pos ⟨hle, rfl⟩]
    have hlt : offset.natAbs < 100 * 60 := Nat.lt_of_le_of_lt hle (by decide)
    exact (Fields.set?_eq_some_iff hoffset).mpr ⟨Field.allows_offset_iff.mpr hlt, rfl⟩

/-- The end of a time stamp, behind the seconds. -/
theorem readStampEnd_iff (hnanosecond : fields .nanosecond = none)
    (hoffset : fields .offset = none) :
    (do
      let (fields, cs) ← match expect '.' cs with
        | some cs => readField readFraction .nanosecond fields cs
        | none => some (fields, cs)
      let (offset, cs) ← readOffset ⟨true, false, true⟩ (expect ':') cs
      if offset.natAbs ≤ maxStampOffset ∧ cs = [] then fields.set? .offset offset else none)
        = some fields'
      ↔ ∃ fractionText nanosecond offsetText offset, cs = fractionText ++ offsetText
          ∧ IsFraction fractionText nanosecond
          ∧ IsOffset ⟨true, false, true⟩ [':'] offsetText offset ∧ offset.natAbs ≤ maxStampOffset
          ∧ fields' = (fields.putGiven .nanosecond nanosecond).put .offset offset := by
  have hput (n : Nat) : fields.put .nanosecond n .offset = none := hoffset
  constructor
  · intro h
    cases hpoint : expect '.' cs with
    | some behind =>
      rw [hpoint] at h
      obtain ⟨n, rest, hread, -, htail⟩ := (bind_readField_iff hnanosecond).mp h
      obtain ⟨digits, hne, hdigits, rfl, rfl⟩ := exists_of_readFraction hread
      obtain ⟨offset, htext, hle, rfl⟩ := (readStampOffset_iff (hput _)).mp htail
      exact ⟨_, _, _, offset, expect_eq_some_iff.mp hpoint, .digits hne hdigits, htext, hle, rfl⟩
    | none =>
      rw [hpoint] at h
      obtain ⟨offset, htext, hle, rfl⟩ := (readStampOffset_iff hoffset).mp h
      exact ⟨[], none, cs, offset, rfl, .none, htext, hle, rfl⟩
  · rintro ⟨fractionText, nanosecond, offsetText, offset, rfl, hfraction, htext, hle, rfl⟩
    cases hfraction with
    | none =>
      have hpoint : expect '.' offsetText = none := by
        cases offsetText with
        | nil => rfl
        | cons c offsetText => exact if_neg (htext.head c rfl).2
      rw [List.nil_append, hpoint]
      exact (readStampOffset_iff hoffset).mpr ⟨offset, htext, hle, rfl⟩
    | @digits digits hne hdigits =>
      have hpoint : expect '.' ('.' :: digits ++ offsetText) = some (digits ++ offsetText) :=
        expect_eq_some_iff.mpr rfl
      rw [hpoint]
      exact (bind_readField_iff hnanosecond).mpr ⟨_, _,
        readFraction_append hne hdigits fun c hc => (htext.head c hc).1,
        Field.allows_nanosecond_iff.mpr (nanosecondsOf_lt hdigits),
        (readStampOffset_iff (hput _)).mpr ⟨offset, htext, hle, rfl⟩⟩

/-- **Time stamps are read, and nothing else.** -/
theorem readStamp?_eq_some_iff :
    readStamp? cs = some fields
      ↔ ∃ p, IsStamp cs p ∧ p.Bounded ∧ p.offset.natAbs ≤ maxStampOffset ∧ fields = p.fields := by
  constructor
  · intro h
    obtain ⟨yearDigits, year, c1, rfl, hyear, -, h1⟩ := (bind_readDigits_iff rfl).mp h
    obtain ⟨c2, rfl, h2⟩ := bind_expect_iff.mp h1
    obtain ⟨monthDigits, month, c3, rfl, hmonth, hmonth', h3⟩ := (bind_readDigits_iff rfl).mp h2
    obtain ⟨c4, rfl, h4⟩ := bind_expect_iff.mp h3
    obtain ⟨dayDigits, day, c5, rfl, hday, hday', h5⟩ := (bind_readDigits_iff rfl).mp h4
    obtain ⟨separator, c6, rfl, hseparator, h6⟩ := bind_readSeparator_iff.mp h5
    obtain ⟨hourDigits, hour, c7, rfl, hhour, hhour', h7⟩ := (bind_readHour_iff rfl rfl).mp h6
    obtain ⟨c8, rfl, h8⟩ := bind_expect_iff.mp h7
    obtain ⟨minuteDigits, minute, c9, rfl, hminute, hminute', h9⟩ := (bind_readDigits_iff rfl).mp h8
    obtain ⟨c10, rfl, h10⟩ := bind_expect_iff.mp h9
    obtain ⟨secondDigits, second, c11, rfl, hsecond, hsecond', h11⟩ :=
      (bind_readDigits_iff rfl).mp h10
    obtain ⟨fractionText, nanosecond, offsetText, offset, rfl, hfraction, hoffset, hle, rfl⟩ :=
      (readStampEnd_iff rfl rfl).mp h11
    refine ⟨_, .mk hyear hmonth hday hseparator hhour hminute hsecond hfraction hoffset,
      ⟨Field.allows_month_iff.mp hmonth', Field.allows_day_iff.mp hday', hhour',
        Field.allows_minute_iff.mp hminute', ?_⟩, hle, ?_⟩
    · rintro s ⟨⟩
      exact Field.allows_second_iff.mp hsecond'
    · funext field
      cases nanosecond <;> cases field <;> rfl
  · rintro ⟨p, hstamp, hbounded, hle, rfl⟩
    obtain ⟨hmonth', hday', hhour', hminute', hsecond'⟩ := hbounded
    cases hstamp with
    | @mk _ _ _ _ _ _ _ _ _ _ _ second _ _ nanosecond _ offset hyear hmonth hday hseparator hhour
        hminute hsecond hfraction hoffset =>
      have hyear' := Field.allows_year_iff.mpr (hyear.lt.trans (by decide))
      refine (bind_readDigits_iff rfl).mpr ⟨_, _, _, rfl, hyear, hyear', ?_⟩
      refine bind_expect_iff.mpr ⟨_, rfl, ?_⟩
      refine (bind_readDigits_iff rfl).mpr
        ⟨_, _, _, rfl, hmonth, Field.allows_month_iff.mpr hmonth', ?_⟩
      refine bind_expect_iff.mpr ⟨_, rfl, ?_⟩
      refine (bind_readDigits_iff rfl).mpr ⟨_, _, _, rfl, hday, Field.allows_day_iff.mpr hday', ?_⟩
      refine bind_readSeparator_iff.mpr ⟨_, _, rfl, hseparator, ?_⟩
      refine (bind_readHour_iff rfl rfl).mpr ⟨_, _, _, rfl, hhour, hhour', ?_⟩
      refine bind_expect_iff.mpr ⟨_, rfl, ?_⟩
      refine (bind_readDigits_iff rfl).mpr
        ⟨_, _, _, rfl, hminute, Field.allows_minute_iff.mpr hminute', ?_⟩
      refine bind_expect_iff.mpr ⟨_, rfl, ?_⟩
      refine (bind_readDigits_iff rfl).mpr
        ⟨_, _, _, rfl, hsecond, Field.allows_second_iff.mpr (hsecond' second rfl), ?_⟩
      refine (readStampEnd_iff rfl rfl).mpr
        ⟨_, nanosecond, _, offset, rfl, hfraction, hoffset, hle, ?_⟩
      funext field
      cases nanosecond <;> cases field <;> rfl

/-- **The times that time stamps give** are those with the parts of a stamp, if they can be
handled. -/
theorem stampTime?_eq_some_iff {t : ZonedTime} :
    (readStamp? cs).bind Fields.zonedTime? = some t
      ↔ ∃ p, IsStamp cs p ∧ p.Valid ∧ t = p.time ∧ t.utcDate?.isSome = true := by
  refine Parts.bind_zonedTime?_iff (fun _ => readStamp?_eq_some_iff)
    (fun p hvalid => Nat.le_of_lt_succ hvalid.offset_lt) fun p hstamp => ?_
  cases hstamp
  nofun

/-- A stamp is of one time only. -/
theorem time_eq_of_isStamp {p q : Parts} (hp : IsStamp cs p) (hpv : p.Valid) (hq : IsStamp cs q)
    (hqv : q.Valid) : p.time = q.time :=
  Parts.time_eq_of_written (fun _ => readStamp?_eq_some_iff)
    (fun _ hvalid => Nat.le_of_lt_succ hvalid.offset_lt) hp hpv hq hqv

/-- The nanoseconds of a stamp are less than a second. -/
theorem nanosecond_lt_of_isStamp {p : Parts} (h : IsStamp cs p) :
    p.time.localTime.time.nanosecond < 10 ^ 9 := by
  cases h with
  | mk _ _ _ _ _ _ _ hfraction _ =>
    cases hfraction with
    | none => exact Nat.pow_pos (by decide)
    | digits _ hdigits => exact nanosecondsOf_lt hdigits

/-- There is nothing around a stamp. -/
theorem trim_of_isStamp {p : Parts} (h : IsStamp cs p) : trim cs = cs := by
  cases h with
  | @mk yearDigits _ _ _ _ _ _ _ _ _ _ _ _ _ _ offsetText _ hyear _ _ _ _ _ _ _ hoffset =>
    obtain ⟨hne, hlast⟩ := hoffset.getLast
    refine trim_of_ends (isBlank_head_of_numeral hyear (by decide) _) fun c hc => hlast c ?_
    simp only [← List.append_assoc, ← List.cons_append] at hc
    rwa [List.getLast?_append_of_ne_nil _ hne] at hc

/-- The first three characters of a stamp are digits. -/
theorem isDigit_of_isStamp {p : Parts} (h : IsStamp cs p) : ∀ c ∈ cs.take 3, isDigit c = true := by
  cases h with
  | @mk yearDigits _ _ _ _ _ _ _ _ _ _ _ _ _ _ _ _ hyear =>
    intro c hc
    rw [List.take_append_of_le_length (by rw [hyear.length]; decide)] at hc
    exact hyear.all_digits c (List.mem_of_mem_take hc)

/-! ## Writing stamps -/

/-- The parts with which a time is written. -/
def ZonedTime.parts (t : ZonedTime) : Parts where
  weekday := none
  year := t.localTime.date.year.toNat
  month := t.localTime.date.month
  day := t.localTime.date.day
  hour := t.localTime.time.hour
  minute := t.localTime.time.minute
  second := some t.localTime.time.second
  nanosecond := if t.localTime.time.nanosecond = 0 then none else some t.localTime.time.nanosecond
  offset := t.offset

theorem ZonedTime.time_parts {t : ZonedTime} (hyear : 0 ≤ t.localTime.date.year) :
    t.parts.time = t := by
  obtain ⟨⟨⟨year, month, day⟩, ⟨hour, minute, second, nanosecond⟩⟩, offset⟩ := t
  have hwhole : ((year.toNat : Nat) : Int) = year := Int.toNat_of_nonneg hyear
  have hpart : (if nanosecond = 0 then none else some nanosecond).getD 0 = nanosecond := by
    split_ifs with hzero
    · exact hzero.symm
    · rfl
  simp only [ZonedTime.parts, Parts.time, hwhole, hpart, Option.getD_some]

theorem Parts.Valid.parts {p : Parts} (h : p.Valid) : p.time.parts.Valid where
  year_le := h.year_le
  day_pos := h.day_pos
  day_le := h.day_le
  weekday := nofun
  hour_lt := h.hour_lt
  minute_lt := h.minute_lt
  second_le := by
    rintro second ⟨⟩
    show p.second.getD 0 ≤ 60
    cases hsecond : p.second with
    | none => exact Nat.zero_le 60
    | some second => exact h.second_le second hsecond
  offset_lt := h.offset_lt

theorem nanosecondsOf_paddedDigits {width n : Nat} (hwidth : 0 < width)
    (hn : n < 10 ^ width) : nanosecondsOf (paddedDigits width n) = n * 10 ^ 9 / 10 ^ width := by
  have hdigits := numeral_paddedDigits hwidth hn
  rw [nanosecondsOf, hdigits.value, hdigits.length]

theorem isFraction_fractionText {n : Nat} (hn : n < 10 ^ 9) :
    IsFraction (fractionText n) (if n = 0 then none else some n) := by
  have hdigits {width m : Nat} (hwidth : 0 < width) (hm : m < 10 ^ width)
      (hvalue : m * 10 ^ 9 / 10 ^ width = n) :
      IsFraction ('.' :: paddedDigits width m) (some n) := by
    have hnumeral := numeral_paddedDigits hwidth hm
    rw [← hvalue, ← nanosecondsOf_paddedDigits hwidth hm]
    refine .digits (fun hnil => ?_) hnumeral.all_digits
    rw [← hnumeral.length, hnil] at hwidth
    exact absurd hwidth (by decide)
  rw [fractionText]
  split_ifs with hzero hmilli hmicro
  · exact .none
  · exact hdigits (by decide) (by omega) (by omega)
  · exact hdigits (by decide) (by omega) (by omega)
  · exact hdigits (by decide) (by omega) (by omega)

theorem isOffset_offsetText {offset : Int} (h : offset.natAbs < 24 * 60) :
    IsOffset ⟨true, false, true⟩ [':'] (offsetText offset) offset := by
  have hhours : Numeral 2 (twoDigits (offset.natAbs / 60)) (offset.natAbs / 60) :=
    numeral_paddedDigits (by decide) (by omega)
  have hminutes : Numeral 2 (twoDigits (offset.natAbs % 60)) (offset.natAbs % 60) :=
    numeral_paddedDigits (by decide) (by omega)
  have hle : offset.natAbs % 60 ≤ 59 := by omega
  rw [offsetText]
  split_ifs with hnegative
  · have hvalue : offset = -((offset.natAbs / 60 : Nat) * 60 + (offset.natAbs % 60 : Nat)) := by
      omega
    have htext : IsOffset ⟨true, false, true⟩ [':'] _ _ :=
      .behind (.inl rfl) hhours hminutes hle
    rw [← hvalue] at htext
    simpa using htext
  · have hvalue : offset = (offset.natAbs / 60 : Nat) * 60 + (offset.natAbs % 60 : Nat) := by omega
    have htext : IsOffset ⟨true, false, true⟩ [':'] _ _ := .ahead hhours hminutes hle
    rw [← hvalue] at htext
    simpa using htext

/-- **A time in the years 0 to 9999 is written as a stamp with its parts.** -/
theorem isStamp_text {p : Parts} (hyear : p.year ≤ 9999) (hvalid : p.Valid)
    (hnanosecond : p.time.localTime.time.nanosecond < 10 ^ 9) :
    IsStamp p.time.text p.time.parts := by
  have hdigits : yearText p.time.localTime.date.year = paddedDigits 4 p.year := by
    have hfour : (0 : Int) ≤ p.year ∧ (p.year : Int) ≤ 9999 := by omega
    exact if_pos hfour
  have htext : p.time.text = paddedDigits 4 p.year ++ '-' :: (twoDigits p.month ++ '-' ::
      (twoDigits p.day ++ 'T' :: (twoDigits p.hour ++ ':' :: (twoDigits p.minute ++ ':' ::
      (twoDigits (p.second.getD 0) ++ (fractionText (p.nanosecond.getD 0)
        ++ offsetText p.offset)))))) := by
    rw [ZonedTime.text, LocalTime.text, Date.text, hdigits, Time.text]
    simp only [List.append_assoc, List.cons_append]
    rfl
  have htwo {n : Nat} (hn : n < 100) : Numeral 2 (twoDigits n) n :=
    numeral_paddedDigits (by decide) hn
  have hmonth := (Parts.month_of_day hvalid).2
  have hday := Parts.day_le_of_valid hvalid
  have hhour := hvalid.hour_lt
  have hminute := hvalid.minute_lt
  have hsecond : p.second.getD 0 ≤ 60 := hvalid.parts.second_le _ rfl
  rw [htext]
  exact .mk (numeral_paddedDigits (by decide) (by omega)) (htwo (by omega)) (htwo (by omega))
    (.inl rfl) (htwo (by omega)) (htwo (by omega)) (htwo (by omega))
    (isFraction_fractionText hnanosecond) (isOffset_offsetText hvalid.offset_lt)

end CheckScript.Calendar
