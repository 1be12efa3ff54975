import CheckScript.Proofs.Calendar.Fields

/-!
# Dates of mail

What the date of a mail is (`IsMailDate`), and that just these are read
(`readMailDate?_eq_some_iff`). It has two halves: the day (`IsMailDay`) and the time of day with the
offset (`IsMailClock`). Blanks part them, and so no digit that could belong to the year follows it.
-/

namespace CheckScript.Calendar

open Text

variable {cs rest : List Char} {fields fields' : Fields}

/-! ## The parts of a date -/

/-- The week day at the start of a date, if there is one. -/
inductive IsMailWeekday : List Char → Option Nat → Prop
  | none : IsMailWeekday [] none
  | name {letters : List Char} {i : Nat} (hname : Abbreviates weekdayNames i letters) :
      IsMailWeekday (letters ++ [',']) (some i)

/-- A year: all of it, the years since 1900, or the last two digits of one from 1950 to 2049. -/
inductive IsMailYear : List Char → Nat → Prop
  | whole {count year : Nat} {digits : List Char} (hdigits : Numeral count digits year)
      (hcount : 4 ≤ count) : IsMailYear digits year
  | since1900 {n : Nat} {digits : List Char} (hdigits : Numeral 3 digits n) :
      IsMailYear digits (1900 + n)
  | last {n : Nat} {digits : List Char} (hdigits : Numeral 2 digits n) (hn : 50 ≤ n) :
      IsMailYear digits (1900 + n)
  | this {n : Nat} {digits : List Char} (hdigits : Numeral 2 digits n) (hn : n ≤ 49) :
      IsMailYear digits (2000 + n)

/-- The second, if there is one. -/
inductive IsMailSecond : List Char → Option Nat → Prop
  | none : IsMailSecond [] none
  | digits {blanks digits : List Char} {second : Nat} (hblanks : AllBlank blanks)
      (hdigits : Numeral 2 digits second) : IsMailSecond (blanks ++ ':' :: digits) (some second)

/-- The offset: the name of a time zone, a letter that says nothing, or hours and minutes. -/
inductive IsMailZone : List Char → Int → Prop
  | name {letters name : List Char} {hours : Int} (hname : (name, hours) ∈ zoneOffsets)
      (hletters : letters.map lowerAscii = name) : IsMailZone letters (hours * 60)
  | letter {c : Char} (hc : c.isAlpha = true) (hj : lowerAscii c ≠ 'j') : IsMailZone [c] 0
  | clock {text : List Char} {offset : Int}
      (htext : IsOffset ⟨false, false, false⟩ [] text offset) : IsMailZone text offset

/-- The day, as in `Mon, 19 Oct 2026`: its text, week day, year, month and number. -/
inductive IsMailDay : List Char → Option Nat → Nat → Nat → Nat → Prop
  | mk {lead weekdayText before dayDigits gap month gap' yearDigits : List Char}
      {weekday : Option Nat} {count day i year : Nat} (hlead : AllBlank lead)
      (hweekday : IsMailWeekday weekdayText weekday) (hbefore : AllBlank before)
      (hday : Numeral count dayDigits day) (hcount : 1 ≤ count ∧ count ≤ 2) (hgap : IsGap gap)
      (hmonth : Abbreviates monthNames i month) (hgap' : IsGap gap')
      (hyear : IsMailYear yearDigits year) :
      IsMailDay (lead ++ (weekdayText ++ (before ++ (dayDigits ++ (gap ++ (month
        ++ (gap' ++ yearDigits))))))) weekday year (i + 1) day

/-- The time of day with the offset and any comments, as in `08:30:00 +0200 (a comment)`: its text,
hour, minute, second and offset. -/
inductive IsMailClock : List Char → Nat → Nat → Option Nat → Int → Prop
  | mk {hourDigits before behind minuteDigits secondText gap zone comments : List Char}
      {hour minute : Nat} {second : Option Nat} {offset : Int} (hhour : Numeral 2 hourDigits hour)
      (hbefore : AllBlank before) (hbehind : AllBlank behind)
      (hminute : Numeral 2 minuteDigits minute) (hsecond : IsMailSecond secondText second)
      (hgap : IsGap gap) (hzone : IsMailZone zone offset) (hcomments : IsComments comments) :
      IsMailClock (hourDigits ++ (before ++ ':' :: (behind ++ (minuteDigits ++ (secondText
        ++ (gap ++ (zone ++ comments))))))) hour minute second offset

/-- The date of a mail, and its parts. -/
inductive IsMailDate : List Char → Parts → Prop
  | mk {dayText gap clock : List Char} {weekday : Option Nat} {year month day hour minute : Nat}
      {second : Option Nat} {offset : Int} (hday : IsMailDay dayText weekday year month day)
      (hgap : IsGap gap) (hclock : IsMailClock clock hour minute second offset) :
      IsMailDate (dayText ++ (gap ++ clock))
        ⟨weekday, year, month, day, hour, minute, second, none, offset⟩

/-! ## Reading the day -/

theorem set?_weekday {i : Nat} (h : i < 7) :
    Fields.none.set? .weekday i = some (Fields.none.put .weekday i) := by
  refine (Fields.set?_eq_some_iff rfl).mpr ⟨?_, rfl⟩
  simp only [Field.bounds]
  omega

theorem exists_of_readMailWeekday (h : readMailWeekday cs = some (fields, rest)) :
    ∃ text weekday, cs = text ++ rest ∧ IsMailWeekday text weekday
      ∧ fields = Fields.none.putGiven .weekday weekday := by
  unfold readMailWeekday at h
  split at h
  case h_1 =>
    cases h
    exact ⟨[], none, rfl, .none, rfl⟩
  case h_2 i behind hread =>
    obtain ⟨letters, rfl, hname⟩ := (readName_eq_some_iff abbreviable_weekdayNames).mp hread
    obtain ⟨rest, rfl, h⟩ := bind_expect_iff.mp h
    rw [set?_weekday hname.lt] at h
    cases h
    refine ⟨letters ++ [','], some i, ?_, .name hname, rfl⟩
    rw [List.append_assoc, List.singleton_append]

/-- A week day is read, or nothing if digits follow. -/
theorem readMailWeekday_append {lead text before : List Char} {weekday : Option Nat}
    (hlead : AllBlank lead) (htext : IsMailWeekday text weekday) (hbefore : AllBlank before)
    (hrest : ∃ c ∈ rest.head?, isDigit c = true) :
    ∃ left, readMailWeekday (trimStart (lead ++ (text ++ (before ++ rest))))
        = some (Fields.none.putGiven .weekday weekday, left)
      ∧ trimStart left = rest := by
  obtain ⟨c, hc, hdigit⟩ := hrest
  have hstart : trimStart rest = rest := by
    refine trimStart_of_head fun d hd => ?_
    rw [Option.mem_unique hd hc]
    exact isBlank_of_isDigit hdigit
  rw [trimStart_append hlead]
  cases htext with
  | none =>
    have hnone : readName false rest weekdayNames = none := by
      refine Option.eq_none_iff_forall_ne_some.mpr fun answer hread => ?_
      obtain ⟨letters, rfl, hname⟩ := (readName_eq_some_iff abbreviable_weekdayNames).mp hread
      have halpha := hname.isAlpha_head abbreviable_weekdayNames answer.2 c hc
      cases halpha.symm.trans (isAlpha_of_isDigit hdigit)
    rw [List.nil_append, trimStart_append hbefore, hstart, readMailWeekday, hnone]
    exact ⟨rest, rfl, hstart⟩
  | @name letters i hname =>
    have halpha := hname.isAlpha_head abbreviable_weekdayNames ([','] ++ (before ++ rest))
    rw [List.append_assoc, trimStart_of_head fun d hd => isBlank_of_isAlpha (halpha d hd),
      readMailWeekday, (readName_eq_some_iff abbreviable_weekdayNames).mpr ⟨letters, rfl, hname⟩]
    refine ⟨before ++ rest, ?_, by rw [trimStart_append hbefore, hstart]⟩
    refine bind_expect_iff.mpr ⟨_, rfl, ?_⟩
    rw [set?_weekday hname.lt]
    rfl

theorem set?_month {i : Nat} (h : i < 12) (hnone : fields .month = none) :
    fields.set? .month (i + 1) = some (fields.put .month (i + 1 : Nat)) := by
  have hallows : Field.month.Allows (i + 1 : Nat) := Field.allows_month_iff.mpr (by omega)
  exact (Fields.set?_eq_some_iff hnone).mpr ⟨hallows, rfl⟩

theorem isMailYear_iff {count n year : Nat} {digits : List Char} (hdigits : Numeral count digits n)
    (hcount : 2 ≤ count) : IsMailYear digits year ↔ mailYear count n = year := by
  constructor
  · intro h
    unfold mailYear
    cases h with
    | whole hyear hfour =>
      obtain ⟨rfl, rfl⟩ := hdigits.unique hyear
      rw [if_neg (by omega), if_neg (by omega)]
    | since1900 hyear =>
      obtain ⟨rfl, rfl⟩ := hdigits.unique hyear
      rw [if_neg (by omega), if_pos rfl]
      omega
    | last hyear hn =>
      obtain ⟨rfl, rfl⟩ := hdigits.unique hyear
      rw [if_pos rfl, if_neg (by omega)]
      omega
    | this hyear hn =>
      obtain ⟨rfl, rfl⟩ := hdigits.unique hyear
      rw [if_pos rfl, if_pos (by omega)]
      omega
  · intro h
    unfold mailYear at h
    split_ifs at h with htwo hlast hthree
    · subst htwo
      obtain rfl : 2000 + n = year := by omega
      exact .this hdigits (by omega)
    · subst htwo
      obtain rfl : 1900 + n = year := by omega
      exact .last hdigits (by omega)
    · subst hthree
      obtain rfl : 1900 + n = year := by omega
      exact .since1900 hdigits
    · obtain rfl : n = year := by omega
      exact .whole hdigits (by omega)

/-- A year has at least two digits. -/
theorem IsMailYear.exists_numeral {year : Nat} {digits : List Char} (h : IsMailYear digits year) :
    ∃ count n, Numeral count digits n ∧ 2 ≤ count := by
  cases h with
  | whole hdigits hcount => exact ⟨_, _, hdigits, by omega⟩
  | since1900 hdigits => exact ⟨_, _, hdigits, by decide⟩
  | last hdigits => exact ⟨_, _, hdigits, by decide⟩
  | this hdigits => exact ⟨_, _, hdigits, by decide⟩

theorem exists_of_readMailYear (hnone : fields .year = none)
    (h : readMailYear fields cs = some (fields', rest)) :
    ∃ digits year, cs = digits ++ rest ∧ IsMailYear digits year ∧ year < 2 ^ 31
      ∧ fields' = fields.put .year year := by
  obtain ⟨⟨_, left⟩, hread, hset⟩ := Option.bind_eq_some_iff.mp h
  obtain ⟨_, hset, heq⟩ := Option.bind_eq_some_iff.mp hset
  cases heq
  obtain ⟨digits, count, n, rfl, hdigits, hcount, -, rfl⟩ := exists_of_readNumber hread
  obtain ⟨hallows, rfl⟩ := (Fields.set?_eq_some_iff hnone).mp hset
  rw [List.length_append, Nat.add_sub_cancel, hdigits.length] at hallows ⊢
  have hpos : 0 ≤ mailYear count n := by
    unfold mailYear
    split_ifs <;> omega
  obtain ⟨year, hyear⟩ := Int.eq_ofNat_of_zero_le hpos
  rw [hyear] at hallows ⊢
  exact ⟨digits, year, rfl, (isMailYear_iff hdigits hcount).mpr hyear,
    Field.allows_year_iff.mp hallows, rfl⟩

theorem readMailYear_append {digits : List Char} {year : Nat} (hnone : fields .year = none)
    (hyear : IsMailYear digits year) (hlt : year < 2 ^ 31)
    (hrest : ∀ c ∈ rest.head?, isDigit c = false) :
    readMailYear fields (digits ++ rest) = some (fields.put .year year, rest) := by
  obtain ⟨count, n, hdigits, hcount⟩ := hyear.exists_numeral
  have hset := (Fields.set?_eq_some_iff hnone).mpr ⟨Field.allows_year_iff.mpr hlt, rfl⟩
  rw [readMailYear, readNumber_append hdigits hcount (by nofun) (.inr hrest)]
  dsimp only [Option.bind_eq_bind, Option.bind_some]
  rw [List.length_append, Nat.add_sub_cancel, hdigits.length,
    (isMailYear_iff hdigits hcount).mp hyear, hset]
  rfl

/-- Reads the day. -/
def readMailDay (cs : List Char) : Option (Fields × List Char) := do
  let (fields, cs) ← readMailWeekday (trimStart cs)
  let (fields, cs) ← readField (readNumber 1 (some 2)) .day fields (trimStart cs)
  let (month, cs) ← readName false (← readBlanks cs) monthNames
  let fields ← fields.set? .month (month + 1)
  readMailYear fields (← readBlanks cs)

/-- The fields of a day. -/
def dayFields (weekday : Option Nat) (year month day : Nat) : Fields :=
  (((Fields.none.putGiven .weekday weekday).put .day day).put .month month).put .year year

section

variable (weekday : Option Nat) (day month : Nat)

theorem day_not_given : Fields.none.putGiven .weekday weekday .day = none :=
  Fields.putGiven_of_ne (by decide)

theorem month_not_given :
    (Fields.none.putGiven .weekday weekday).put .day day .month = none :=
  Fields.putGiven_of_ne (by decide)

theorem year_not_given :
    ((Fields.none.putGiven .weekday weekday).put .day day).put .month month .year = none :=
  Fields.putGiven_of_ne (by decide)

end

/-- What is read as a day is one. -/
theorem exists_of_readMailDay (h : readMailDay cs = some (fields, rest)) :
    ∃ text weekday year month day, cs = text ++ rest ∧ IsMailDay text weekday year month day
      ∧ (1 ≤ month ∧ month ≤ 12) ∧ (1 ≤ day ∧ day ≤ 31) ∧ year < 2 ^ 31
      ∧ fields = dayFields weekday year month day := by
  obtain ⟨⟨_, c1⟩, hread, h1⟩ := Option.bind_eq_some_iff.mp h
  obtain ⟨lead, hlead, hcs⟩ := exists_blanks_append_trimStart cs
  obtain ⟨weekdayText, weekday, hc0, hweekday, rfl⟩ := exists_of_readMailWeekday hread
  obtain ⟨before, hbefore, hc1⟩ := exists_blanks_append_trimStart c1
  obtain ⟨_, c2, hreadDay, hday, h2⟩ := (bind_readField_iff (day_not_given weekday)).mp h1
  obtain ⟨dayDigits, count, day, hc2, hdayDigits, hleast, hmost, rfl⟩ :=
    exists_of_readNumber hreadDay
  obtain ⟨c3, hblanks, h3⟩ := Option.bind_eq_some_iff.mp h2
  obtain ⟨gap, rfl, hgap, -⟩ := readBlanks_eq_some_iff.mp hblanks
  obtain ⟨⟨i, c4⟩, hreadMonth, h4⟩ := Option.bind_eq_some_iff.mp h3
  obtain ⟨letters, rfl, hname⟩ := (readName_eq_some_iff abbreviable_monthNames).mp hreadMonth
  have hi : i < 12 := hname.lt
  dsimp only at h4
  rw [set?_month hi (month_not_given weekday day), Option.bind_eq_bind, Option.bind_some] at h4
  obtain ⟨c5, hblanks', h5⟩ := Option.bind_eq_some_iff.mp h4
  obtain ⟨gap', rfl, hgap', -⟩ := readBlanks_eq_some_iff.mp hblanks'
  obtain ⟨yearDigits, year, rfl, hyearDigits, hlt, rfl⟩ :=
    exists_of_readMailYear (year_not_given weekday day (i + 1)) h5
  refine ⟨_, weekday, year, i + 1, day, ?_, .mk hlead hweekday hbefore hdayDigits
    ⟨hleast, hmost 2 rfl⟩ hgap hname hgap' hyearDigits, by omega, Field.allows_day_iff.mp hday, hlt,
    rfl⟩
  conv_lhs => rw [hcs, hc0, hc1, hc2]
  simp only [List.append_assoc]

/-- A day is read if no digit follows. -/
theorem readMailDay_append {text : List Char} {weekday : Option Nat} {year month day : Nat}
    (htext : IsMailDay text weekday year month day) (hday : 1 ≤ day ∧ day ≤ 31)
    (hyear : year < 2 ^ 31) (hrest : ∀ c ∈ rest.head?, isDigit c = false) :
    readMailDay (text ++ rest) = some (dayFields weekday year month day, rest) := by
  cases htext with
  | @mk lead weekdayText before dayDigits gap letters gap' yearDigits _ count _ i _ hlead hweekday
      hbefore hdayDigits hcount hgap hname hgap' hyearDigits =>
    simp only [List.append_assoc]
    have hdigit : ∃ c ∈ (dayDigits ++ (gap ++ (letters ++ (gap' ++ (yearDigits
        ++ rest))))).head?, isDigit c = true := by
      cases dayDigits with
      | nil => exact absurd rfl (hdayDigits.ne_nil hcount.1)
      | cons c digits => exact ⟨c, rfl, hdayDigits.all_digits c List.mem_cons_self⟩
    obtain ⟨left, hread, hleft⟩ := readMailWeekday_append hlead hweekday hbefore hdigit
    refine Option.bind_eq_some_iff.mpr ⟨_, hread, ?_⟩
    -- a day of one digit ends there only because a blank follows
    have hreadDay : readNumber 1 (some 2) (trimStart left)
        = some ((day : Int), gap ++ (letters ++ (gap' ++ (yearDigits ++ rest)))) := by
      rw [hleft]
      refine readNumber_append hdayDigits hcount.1 (fun limit hlimit => ?_)
        (.inr fun c hc => isDigit_of_isBlank (hgap.head _ c hc))
      cases hlimit
      exact hcount.2
    refine (bind_readField_iff (day_not_given weekday)).mpr
      ⟨day, _, hreadDay, Field.allows_day_iff.mpr hday, ?_⟩
    refine Option.bind_eq_some_iff.mpr ⟨_, readBlanks_eq_some_iff.mpr ⟨gap, rfl, hgap, ?_⟩, ?_⟩
    · exact fun c hc => isBlank_of_isAlpha (hname.isAlpha_head abbreviable_monthNames _ c hc)
    refine Option.bind_eq_some_iff.mpr
      ⟨_, (readName_eq_some_iff abbreviable_monthNames).mpr ⟨letters, rfl, hname⟩, ?_⟩
    dsimp only
    rw [set?_month hname.lt (month_not_given weekday day), Option.bind_eq_bind, Option.bind_some]
    refine Option.bind_eq_some_iff.mpr ⟨_, readBlanks_eq_some_iff.mpr ⟨gap', rfl, hgap', ?_⟩, ?_⟩
    · obtain ⟨count, n, hnumeral, hcount⟩ := hyearDigits.exists_numeral
      exact isBlank_head_of_numeral hnumeral (by omega) rest
    · exact readMailYear_append (year_not_given weekday day (i + 1)) hyearDigits hyear hrest

/-! ## Reading the offset -/

theorem zone_letters {letters name : List Char} {hours : Int} (hname : (name, hours) ∈ zoneOffsets)
    (hletters : letters.map lowerAscii = name) :
    letters ≠ [] ∧ ∀ c ∈ letters, c.isAlpha = true := by
  have hall : ∀ zone ∈ zoneOffsets, zone.1 ≠ [] ∧ zone.1.all Char.isLower = true := by decide
  obtain ⟨hne, hlower⟩ := hall _ hname
  refine ⟨fun hnil => hne ?_, isAlpha_of_map_lowerAscii hletters (List.all_eq_true.mp hlower)⟩
  rw [← hletters, hnil, List.map_nil]

theorem offsetOfZone?_of_mem {name : List Char} {hours : Int} (h : (name, hours) ∈ zoneOffsets) :
    offsetOfZone? name = some (hours * 60) := by
  have hall : ∀ zone ∈ zoneOffsets, zoneOffsets.find? (·.1 == zone.1) = some zone := by decide
  rw [offsetOfZone?, hall _ h]

theorem offsetOfZone?_letter {c : Char} (h : c ≠ 'j') : offsetOfZone? [c] = some 0 := by
  have hall : ∀ zone ∈ zoneOffsets, zone.1.length = 1 → zone.2 = 0 := by decide
  rw [offsetOfZone?]
  cases hfind : zoneOffsets.find? (·.1 == [c]) with
  | none => exact if_pos ⟨rfl, fun heq => h (List.cons.inj heq).1⟩
  | some zone =>
    have hname : zone.1 = [c] := by simpa using List.find?_some hfind
    have hhours := hall zone (List.mem_of_find?_eq_some hfind) (by rw [hname]; rfl)
    dsimp only
    rw [hhours, Int.zero_mul]

theorem exists_of_offsetOfZone? {letters : List Char} {offset : Int}
    (hletters : ∀ c ∈ letters, c.isAlpha = true)
    (h : offsetOfZone? (letters.map lowerAscii) = some offset) : IsMailZone letters offset := by
  unfold offsetOfZone? at h
  split at h
  case h_1 name hours hfind =>
    cases h
    have hname : name = letters.map lowerAscii := by simpa using List.find?_some hfind
    exact .name (List.mem_of_find?_eq_some hfind) hname.symm
  case h_2 =>
    split at h
    case isTrue hletter =>
      cases h
      obtain ⟨hlength, hj⟩ := hletter
      obtain ⟨c, rfl⟩ := List.length_eq_one_iff.mp ((List.length_map lowerAscii).symm.trans hlength)
      exact .letter (hletters c List.mem_cons_self) fun heq => hj (congrArg (fun d => [d]) heq)
    case isFalse => cases h

theorem readClockOffset_eq_some_iff {offset : Int} :
    readOffset ⟨false, false, false⟩ some cs = some (offset, rest)
      ↔ ∃ text, cs = text ++ rest ∧ IsOffset ⟨false, false, false⟩ [] text offset :=
  readOffset_eq_some_iff rfl fun _ _ => Option.some_inj

theorem exists_of_readMailOffset {offset : Int} (h : readMailOffset cs = some (offset, rest)) :
    ∃ zone, cs = zone ++ rest ∧ IsMailZone zone offset := by
  unfold readMailOffset at h
  split at h
  case h_1 =>
    obtain ⟨text, rfl, htext⟩ := readClockOffset_eq_some_iff.mp h
    exact ⟨text, rfl, .clock htext⟩
  case h_2 =>
    obtain ⟨offset, hoffset, heq⟩ := Option.map_eq_some_iff.mp h
    cases heq
    exact ⟨cs.takeWhile Char.isAlpha, List.takeWhile_append_dropWhile.symm,
      exists_of_offsetOfZone? (fun _ => List.mem_takeWhile_imp) hoffset⟩

/-- Letters of a time zone are read up to the first other character. -/
theorem readMailOffset_letters {letters : List Char} {offset : Int} (hne : letters ≠ [])
    (hletters : ∀ c ∈ letters, c.isAlpha = true)
    (hoffset : offsetOfZone? (letters.map lowerAscii) = some offset)
    (hrest : ∀ c ∈ rest.head?, c.isAlpha = false) :
    readMailOffset (letters ++ rest) = some (offset, rest) := by
  have hread : (letters ++ rest).takeWhile Char.isAlpha = letters := by
    rw [List.takeWhile_append_of_pos hletters]
    cases rest with
    | nil => simp
    | cons c rest => simp [hrest c rfl]
  have hleft : (letters ++ rest).dropWhile Char.isAlpha = rest := by
    rw [List.dropWhile_append_of_pos hletters]
    cases rest with
    | nil => rfl
    | cons c rest => simp [hrest c rfl]
  rw [readMailOffset, hread, hleft]
  split
  case h_1 => exact absurd rfl hne
  case h_2 =>
    rw [hoffset]
    rfl

theorem readMailOffset_append {zone : List Char} {offset : Int} (hzone : IsMailZone zone offset)
    (hrest : ∀ c ∈ rest.head?, c.isAlpha = false) :
    readMailOffset (zone ++ rest) = some (offset, rest) := by
  cases hzone with
  | @name letters name hours hname hletters =>
    obtain ⟨hne, halpha⟩ := zone_letters hname hletters
    exact readMailOffset_letters hne halpha (hletters ▸ offsetOfZone?_of_mem hname) hrest
  | letter hc hj =>
    refine readMailOffset_letters (List.cons_ne_nil _ _) (fun d hd => ?_)
      (offsetOfZone?_letter hj) hrest
    rwa [List.mem_singleton.mp hd]
  | clock htext =>
    obtain ⟨sign, clock, rfl, hsign⟩ := htext.exists_sign rfl
    have hletters : (sign :: clock ++ rest).takeWhile Char.isAlpha = [] := by
      rcases hsign with rfl | rfl | rfl <;> rfl
    rw [readMailOffset, hletters]
    exact readClockOffset_eq_some_iff.mpr ⟨_, rfl, htext⟩

/-- An offset starts with a letter or a sign. -/
theorem IsMailZone.head {zone : List Char} {offset : Int} (h : IsMailZone zone offset)
    (rest : List Char) : ∀ c ∈ (zone ++ rest).head?, isBlank c = false ∧ c ≠ ':' := by
  have hletter {letters : List Char} (hne : letters ≠ [])
      (hletters : ∀ c ∈ letters, c.isAlpha = true) :
      ∀ c ∈ (letters ++ rest).head?, isBlank c = false ∧ c ≠ ':' := by
    refine head_append hne (fun c hc => ⟨isBlank_of_isAlpha (hletters c hc), ?_⟩) rest
    rintro rfl
    exact absurd (hletters _ hc) (by decide)
  cases h with
  | name hname hletters =>
    obtain ⟨hne, halpha⟩ := zone_letters hname hletters
    exact hletter hne halpha
  | letter hc =>
    refine hletter (List.cons_ne_nil _ _) fun d hd => ?_
    rwa [List.mem_singleton.mp hd]
  | clock htext =>
    obtain ⟨sign, clock, rfl, hsign⟩ := htext.exists_sign rfl
    rintro c ⟨⟩
    rcases hsign with rfl | rfl | rfl <;> decide

/-- Every offset is less than a hundred hours. -/
theorem IsMailZone.natAbs_lt {zone : List Char} {offset : Int} (h : IsMailZone zone offset) :
    offset.natAbs < 100 * 60 := by
  cases h with
  | name hname =>
    have hall : ∀ zone ∈ zoneOffsets, (zone.2 * 60).natAbs < 100 * 60 := by decide
    exact hall _ hname
  | letter => decide
  | clock htext => exact htext.natAbs_lt

/-- What is behind comments is neither a letter nor a digit. -/
theorem IsComments.head {comments : List Char} (h : IsComments comments) :
    ∀ c ∈ comments.head?, c.isAlpha = false := by
  cases h with
  | nil => nofun
  | @comment blanks body rest hblanks =>
    cases blanks with
    | nil =>
      rintro c ⟨⟩
      decide
    | cons b blanks =>
      rintro c ⟨⟩
      by_contra halpha
      have hblank := isBlank_of_isAlpha (Bool.eq_true_of_not_eq_false halpha)
      cases hblank.symm.trans (hblanks b List.mem_cons_self)

/-! ## Reading the time of day -/

theorem readMailZone_iff (hoffset : fields .offset = none) :
    (do
      let (fields, cs) ← readField readMailOffset .offset fields (← readBlanks cs)
      if skipComments cs = [] then some fields else none) = some fields'
      ↔ ∃ gap zone comments offset, cs = gap ++ (zone ++ comments) ∧ IsGap gap
          ∧ IsMailZone zone offset ∧ IsComments comments
          ∧ fields' = fields.put .offset offset := by
  constructor
  · intro h
    obtain ⟨behind, hblanks, h1⟩ := Option.bind_eq_some_iff.mp h
    obtain ⟨gap, rfl, hgap, -⟩ := readBlanks_eq_some_iff.mp hblanks
    obtain ⟨offset, comments, hread, -, h2⟩ := (bind_readField_iff hoffset).mp h1
    obtain ⟨zone, rfl, hzone⟩ := exists_of_readMailOffset hread
    dsimp only at h2
    split at h2
    case isTrue hcomments =>
      cases h2
      exact ⟨gap, zone, comments, offset, rfl, hgap, hzone, skipComments_eq_nil_iff.mp hcomments,
        rfl⟩
    case isFalse => cases h2
  · rintro ⟨gap, zone, comments, offset, rfl, hgap, hzone, hcomments, rfl⟩
    refine Option.bind_eq_some_iff.mpr ⟨zone ++ comments, readBlanks_eq_some_iff.mpr
      ⟨gap, rfl, hgap, fun c hc => (hzone.head comments c hc).1⟩, ?_⟩
    exact (bind_readField_iff hoffset).mpr
      ⟨offset, comments, readMailOffset_append hzone hcomments.head,
        Field.allows_offset_iff.mpr hzone.natAbs_lt,
        if_pos (skipComments_eq_nil_iff.mpr hcomments)⟩

/-- The end of a date, behind the minutes. -/
theorem readMailEnd_iff (hsecond : fields .second = none) (hoffset : fields .offset = none) :
    (do
      let (fields, cs) ← match expect ':' (trimStart cs) with
        | some cs => readField (readDigitsOf 2) .second fields cs
        | none => some (fields, cs)
      let (fields, cs) ← readField readMailOffset .offset fields (← readBlanks cs)
      if skipComments cs = [] then some fields else none) = some fields'
      ↔ ∃ secondText second gap zone comments offset,
          cs = secondText ++ (gap ++ (zone ++ comments)) ∧ IsMailSecond secondText second
          ∧ (∀ n ∈ second, n ≤ 60) ∧ IsGap gap ∧ IsMailZone zone offset ∧ IsComments comments
          ∧ fields' = (fields.putGiven .second second).put .offset offset := by
  have hput (n : Nat) : fields.put .second n .offset = none := hoffset
  constructor
  · intro h
    cases hcolon : expect ':' (trimStart cs) with
    | some behind =>
      rw [hcolon] at h
      obtain ⟨digits, n, rest, rfl, hdigits, hn, h⟩ := (bind_readDigits_iff hsecond).mp h
      obtain ⟨gap, zone, comments, offset, rfl, hgap, hzone, hcomments, rfl⟩ :=
        (readMailZone_iff (hput n)).mp h
      obtain ⟨blanks, hblanks, hcs⟩ := exists_blanks_append_trimStart cs
      rw [expect_eq_some_iff.mp hcolon] at hcs
      refine ⟨_, some n, gap, zone, comments, offset, ?_, .digits hblanks hdigits, ?_, hgap, hzone,
        hcomments, rfl⟩
      · rw [hcs, List.append_assoc, List.cons_append]
      · rintro _ ⟨⟩
        exact Field.allows_second_iff.mp hn
    | none =>
      rw [hcolon] at h
      obtain ⟨gap, zone, comments, offset, rfl, hgap, hzone, hcomments, rfl⟩ :=
        (readMailZone_iff hoffset).mp h
      exact ⟨[], none, gap, zone, comments, offset, rfl, .none, nofun, hgap, hzone, hcomments, rfl⟩
  · rintro ⟨secondText, second, gap, zone, comments, offset, rfl, htext, hle, hgap, hzone,
      hcomments, rfl⟩
    cases htext with
    | none =>
      have hcolon : expect ':' (trimStart (gap ++ (zone ++ comments))) = none := by
        have hhead := hzone.head comments
        rw [trimStart_append hgap.all_blank, trimStart_of_head fun c hc => (hhead c hc).1]
        cases hstart : zone ++ comments with
        | nil => rfl
        | cons c cs =>
          rw [hstart] at hhead
          exact if_neg (hhead c rfl).2
      rw [List.nil_append, hcolon]
      exact (readMailZone_iff hoffset).mpr
        ⟨gap, zone, comments, offset, rfl, hgap, hzone, hcomments, rfl⟩
    | @digits blanks digits n hblanks hdigits =>
      have hcolon : expect ':' (trimStart (blanks ++ ':' :: digits ++ (gap ++ (zone ++ comments))))
          = some (digits ++ (gap ++ (zone ++ comments))) := by
        rw [List.append_assoc, trimStart_append hblanks]
        rfl
      rw [hcolon]
      exact (bind_readDigits_iff hsecond).mpr
        ⟨digits, n, _, rfl, hdigits, Field.allows_second_iff.mpr (hle n rfl),
          (readMailZone_iff (hput n)).mpr
            ⟨gap, zone, comments, offset, rfl, hgap, hzone, hcomments, rfl⟩⟩

/-- Reads the time of day, the offset and comments up to the end. -/
def readMailClock (fields : Fields) (cs : List Char) : Option Fields := do
  let (fields, cs) ← readHour fields cs
  let cs ← expect ':' (trimStart cs)
  let (fields, cs) ← readField (readDigitsOf 2) .minute fields (trimStart cs)
  let (fields, cs) ← match expect ':' (trimStart cs) with
    | some cs => readField (readDigitsOf 2) .second fields cs
    | none => some (fields, cs)
  let (fields, cs) ← readField readMailOffset .offset fields (← readBlanks cs)
  if skipComments cs = [] then some fields else none

theorem readMailClock_eq_some_iff
    (hnone : ∀ field ∈ [Field.half, .hourOfHalf, .minute, .second, .offset], fields field = none) :
    readMailClock fields cs = some fields'
      ↔ ∃ (hour minute : Nat) (second : Option Nat) (offset : Int),
          IsMailClock cs hour minute second offset ∧ hour < 24 ∧ minute < 60
          ∧ (∀ n ∈ second, n ≤ 60)
          ∧ fields' = (((fields.putHour hour).put .minute minute).putGiven .second second).put
              .offset offset := by
  have hhalf : fields .half = none := hnone _ (by decide)
  have hhour : fields .hourOfHalf = none := hnone _ (by decide)
  have hminute (hour : Nat) : fields.putHour hour .minute = none := hnone .minute (by decide)
  have hsecond (hour minute : Nat) : (fields.putHour hour).put .minute minute .second = none :=
    hnone .second (by decide)
  have hoffset (hour minute : Nat) : (fields.putHour hour).put .minute minute .offset = none :=
    hnone .offset (by decide)
  constructor
  · intro h
    obtain ⟨hourDigits, hour, c1, rfl, hhourDigits, hlt, h1⟩ := (bind_readHour_iff hhalf hhour).mp h
    obtain ⟨c2, hcolon, h2⟩ := bind_expect_iff.mp h1
    obtain ⟨before, hbefore, hc1⟩ := exists_blanks_append_trimStart c1
    obtain ⟨behind, hbehind, hc2⟩ := exists_blanks_append_trimStart c2
    obtain ⟨minuteDigits, minute, c3, hc3, hminuteDigits, hle, h3⟩ :=
      (bind_readDigits_iff (hminute hour)).mp h2
    obtain ⟨secondText, second, gap, zone, comments, offset, rfl, hsecondText, hsixty, hgap, hzone,
      hcomments, rfl⟩ := (readMailEnd_iff (hsecond hour minute) (hoffset hour minute)).mp h3
    refine ⟨hour, minute, second, offset, ?_, hlt, Field.allows_minute_iff.mp hle, hsixty, rfl⟩
    rw [hc1, hcolon, hc2, hc3]
    exact .mk hhourDigits hbefore hbehind hminuteDigits hsecondText hgap hzone hcomments
  · rintro ⟨hour, minute, second, offset, hclock, hlt, hsixty, hle, rfl⟩
    cases hclock with
    | @mk hourDigits before behind minuteDigits secondText gap zone comments _ _ _ _ hhourDigits
        hbefore hbehind hminuteDigits hsecondText hgap hzone hcomments =>
      have hstart (rest : List Char) :
          trimStart (behind ++ (minuteDigits ++ rest)) = minuteDigits ++ rest := by
        rw [trimStart_append hbehind,
          trimStart_of_head (isBlank_head_of_numeral hminuteDigits (by decide) rest)]
      refine (bind_readHour_iff hhalf hhour).mpr ⟨hourDigits, hour, _, rfl, hhourDigits, hlt, ?_⟩
      refine bind_expect_iff.mpr ⟨_, by rw [trimStart_append hbefore]; rfl, ?_⟩
      refine (bind_readDigits_iff (hminute hour)).mpr
        ⟨minuteDigits, minute, _, hstart _, hminuteDigits, Field.allows_minute_iff.mpr hsixty, ?_⟩
      exact (readMailEnd_iff (hsecond hour minute) (hoffset hour minute)).mpr ⟨secondText, second,
        gap, zone, comments, offset, rfl, hsecondText, hle, hgap, hzone, hcomments, rfl⟩

/-! ## Dates -/

theorem readMailDate?_eq (cs : List Char) :
    readMailDate? cs = (do
      let (fields, cs) ← readMailDay cs
      readMailClock fields (← readBlanks cs)) := by
  simp only [readMailDay, Option.bind_eq_bind, Option.bind_assoc]
  rfl

/-- **The dates of mail are read, and nothing else.** -/
theorem readMailDate?_eq_some_iff :
    readMailDate? cs = some fields
      ↔ ∃ p, IsMailDate cs p ∧ p.Bounded ∧ p.year < 2 ^ 31 ∧ fields = p.fields := by
  have hnone (weekday : Option Nat) (year month day : Nat) :
      ∀ field ∈ [Field.half, .hourOfHalf, .minute, .second, .offset],
        dayFields weekday year month day field = none := by
    simp only [List.forall_mem_cons, dayFields]
    refine ⟨?_, ?_, ?_, ?_, ?_, nofun⟩
    all_goals exact Fields.putGiven_of_ne (by decide)
  rw [readMailDate?_eq]
  constructor
  · intro h
    obtain ⟨⟨_, c1⟩, hday, h1⟩ := Option.bind_eq_some_iff.mp h
    obtain ⟨text, weekday, year, month, day, rfl, htext, hmonth, hdayBounds, hyear, rfl⟩ :=
      exists_of_readMailDay hday
    obtain ⟨c2, hblanks, h2⟩ := Option.bind_eq_some_iff.mp h1
    obtain ⟨gap, rfl, hgap, -⟩ := readBlanks_eq_some_iff.mp hblanks
    obtain ⟨hour, minute, second, offset, hclock, hhour, hminute, hsecond, rfl⟩ :=
      (readMailClock_eq_some_iff (hnone weekday year month day)).mp h2
    refine ⟨_, .mk htext hgap hclock, ⟨hmonth, hdayBounds, hhour, hminute, hsecond⟩, hyear, ?_⟩
    funext field
    cases weekday <;> cases second <;> cases field <;> rfl
  · rintro ⟨p, hdate, hbounded, hyear, rfl⟩
    obtain ⟨-, hdayBounds, hhour, hminute, hsecond⟩ := hbounded
    cases hdate with
    | @mk dayText gap clock weekday year month day hour minute second offset htext hgap hclock =>
      refine Option.bind_eq_some_iff.mpr ⟨_, readMailDay_append htext hdayBounds hyear
        fun c hc => isDigit_of_isBlank (hgap.head _ c hc), ?_⟩
      refine Option.bind_eq_some_iff.mpr
        ⟨clock, readBlanks_eq_some_iff.mpr ⟨gap, rfl, hgap, ?_⟩, ?_⟩
      · cases hclock with
        | mk hhourDigits => exact isBlank_head_of_numeral hhourDigits (by decide) _
      refine (readMailClock_eq_some_iff (hnone weekday year month day)).mpr
        ⟨hour, minute, second, offset, hclock, hhour, hminute, hsecond, ?_⟩
      funext field
      cases weekday <;> cases second <;> cases field <;> rfl

theorem Parts.Valid.year_lt {p : Parts} (h : p.Valid) : p.year < 2 ^ 31 := by
  have hyear := h.year_le
  unfold maxYear at hyear
  omega

/-- **The times that dates of mail give** are those with the parts of a date, if they can be
handled. -/
theorem mailTime?_eq_some_iff {t : ZonedTime} :
    (readMailDate? cs).bind Fields.zonedTime? = some t
      ↔ ∃ p, IsMailDate cs p ∧ p.Valid ∧ t = p.time ∧ t.utcDate?.isSome = true := by
  refine Parts.bind_zonedTime?_iff (fun _ => readMailDate?_eq_some_iff)
    (fun _ => Parts.Valid.year_lt) fun p hdate => ?_
  cases hdate
  exact fun _ => rfl

/-- The date of a mail is of one time only. -/
theorem time_eq_of_isMailDate {p q : Parts} (hp : IsMailDate cs p) (hpv : p.Valid)
    (hq : IsMailDate cs q) (hqv : q.Valid) : p.time = q.time :=
  Parts.time_eq_of_written (fun _ => readMailDate?_eq_some_iff) (fun _ => Parts.Valid.year_lt)
    hp hpv hq hqv

/-! ## Dates and stamps -/

theorem mem_take_append_cons {front : List Char} {n : Nat} (h : front.length < n) (c : Char)
    (rest : List Char) : c ∈ (front ++ c :: rest).take n := by
  obtain ⟨k, hk⟩ : ∃ k, n - front.length = k + 1 := ⟨n - front.length - 1, by omega⟩
  rw [List.take_append, hk, List.take_succ_cons]
  exact List.mem_append_right _ List.mem_cons_self

theorem exists_not_digit_of_isMailDay {text : List Char} {weekday : Option Nat}
    {year month day : Nat} (h : IsMailDay text weekday year month day) :
    ∃ c ∈ text.take 3, isDigit c = false := by
  have hblank (b : Char) (blanks rest : List Char) (h : AllBlank (b :: blanks)) :
      ∃ c ∈ (b :: rest).take 3, isDigit c = false :=
    ⟨b, List.mem_cons_self, isDigit_of_isBlank (h b List.mem_cons_self)⟩
  cases h with
  | @mk lead weekdayText before dayDigits gap _ _ _ _ _ _ _ _ hlead hweekday hbefore hdayDigits
      hcount hgap =>
    cases lead with
    | cons b lead => exact hblank b lead _ hlead
    | nil =>
      cases hweekday with
      | @name letters _ hname =>
        have halpha := hname.isAlpha_head abbreviable_weekdayNames [',']
        cases letters with
        | nil => exact absurd (halpha ',' rfl) (by decide)
        | cons c letters =>
          refine ⟨c, List.mem_cons_self, ?_⟩
          by_contra hdigit
          cases (isAlpha_of_isDigit (Bool.eq_true_of_not_eq_false hdigit)).symm.trans
            (halpha c rfl)
      | none =>
        cases before with
        | cons b before => exact hblank b before _ hbefore
        | nil =>
          -- a blank behind the one or two digits of the day
          obtain ⟨hne, hgap⟩ := hgap
          cases gap with
          | nil => exact absurd rfl hne
          | cons b gap =>
            have hlength : dayDigits.length < 3 := hdayDigits.length ▸ Nat.lt_succ_of_le hcount.2
            exact ⟨b, mem_take_append_cons hlength b _,
              isDigit_of_isBlank (hgap b List.mem_cons_self)⟩

/-- One of the first three characters of a date is no digit, as they are in a stamp. -/
theorem exists_not_digit_of_isMailDate {p : Parts} (h : IsMailDate cs p) :
    ∃ c ∈ cs.take 3, isDigit c = false := by
  cases h with
  | mk hday =>
    obtain ⟨c, hc, hdigit⟩ := exists_not_digit_of_isMailDay hday
    exact ⟨c, List.take_append ▸ List.mem_append_left _ hc, hdigit⟩

end CheckScript.Calendar
