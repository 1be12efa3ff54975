import CheckScript.Calendar.Scan
import CheckScript.Proofs.Text.Blank
import CheckScript.Proofs.Text.Digits

/-!
# What the parts of a written time are

For each reader, the texts that it reads: digits (`readDigitsOf_eq_some_iff`), parts of a second
(`IsFraction`), names (`readName_eq_some_iff`), offsets (`IsOffset`) and comments (`IsComments`). A
reader reads what stands at the front of a text, so that each statement is about what it has read
and about what is left.

Readers of fixed length need to know nothing of what follows. Those that read as much as there is
read a part if what follows cannot belong to it.
-/

namespace CheckScript.Calendar

open Text

variable {cs rest : List Char}

/-! ## Characters -/

theorem expect_eq_some_iff {c : Char} : expect c cs = some rest ↔ cs = c :: rest := by
  cases cs with
  | nil => simp [expect]
  | cons d cs =>
    rw [expect]
    split
    case isTrue h => simp [h]
    case isFalse h => simp [h]

theorem isBlank_of_isDigit {c : Char} (h : isDigit c = true) : isBlank c = false := by
  simp only [isDigit, Bool.and_eq_true, decide_eq_true_eq] at h
  simp only [isBlank, Bool.or_eq_false_iff, Bool.and_eq_false_iff, decide_eq_false_iff_not,
    beq_eq_false_iff_ne]
  omega

theorem isDigit_of_isBlank {c : Char} (h : isBlank c = true) : isDigit c = false := by
  by_contra hdigit
  cases (isBlank_of_isDigit (Bool.eq_true_of_not_eq_false hdigit)).symm.trans h

theorem isAlpha_iff {c : Char} :
    c.isAlpha = true ↔ (0x41 ≤ c.toNat ∧ c.toNat ≤ 0x5A) ∨ (0x61 ≤ c.toNat ∧ c.toNat ≤ 0x7A) := by
  show (decide ('A'.val ≤ c.val ∧ c.val ≤ 'Z'.val)
    || decide ('a'.val ≤ c.val) && decide (c.val ≤ 'z'.val)) = true ↔ _
  simp only [Bool.or_eq_true, Bool.and_eq_true, decide_eq_true_eq, UInt32.le_iff_toNat_le]
  rfl

theorem isBlank_of_isAlpha {c : Char} (h : c.isAlpha = true) : isBlank c = false := by
  rw [isAlpha_iff] at h
  simp only [isBlank, Bool.or_eq_false_iff, Bool.and_eq_false_iff, decide_eq_false_iff_not,
    beq_eq_false_iff_ne]
  omega

theorem isAlpha_of_isDigit {c : Char} (h : isDigit c = true) : c.isAlpha = false := by
  simp only [isDigit, Bool.and_eq_true, decide_eq_true_eq] at h
  rw [Bool.eq_false_iff, Ne, isAlpha_iff]
  omega

/-- Only letters have lower-case letters as variants. -/
theorem isAlpha_of_isLower_lowerAscii {c : Char} (h : (lowerAscii c).isLower = true) :
    c.isAlpha = true := by
  show (c.isUpper || c.isLower) = true
  rw [Bool.or_eq_true]
  rw [lowerAscii] at h
  split at h
  case isTrue hupper => exact .inl hupper
  case isFalse => exact .inr h

theorem isAlpha_of_map_lowerAscii {letters word : List Char} (h : letters.map lowerAscii = word)
    (hword : ∀ c ∈ word, c.isLower = true) : ∀ c ∈ letters, c.isAlpha = true := fun _ hc =>
  isAlpha_of_isLower_lowerAscii (hword _ (h ▸ List.mem_map_of_mem hc))

/-- What holds of the characters of a text holds of the first one, whatever is behind them. -/
theorem head_append {p : Char → Prop} {front : List Char} (hne : front ≠ [])
    (h : ∀ c ∈ front, p c) (rest : List Char) : ∀ c ∈ (front ++ rest).head?, p c := by
  rw [List.head?_append_of_ne_nil _ hne]
  exact fun c hc => h c (List.mem_of_mem_head? hc)

theorem isBlank_head_of_numeral {count n : Nat} {digits : List Char} (h : Numeral count digits n)
    (hcount : 0 < count) (rest : List Char) : ∀ c ∈ (digits ++ rest).head?, isBlank c = false :=
  head_append (h.ne_nil hcount) (fun c hc => isBlank_of_isDigit (h.all_digits c hc)) rest

/-! ## Blanks -/

/-- Blanks that part what is before them from what is behind. -/
structure IsGap (blanks : List Char) : Prop where
  ne_nil : blanks ≠ []
  all_blank : AllBlank blanks

theorem IsGap.head {gap : List Char} (h : IsGap gap) (rest : List Char) :
    ∀ c ∈ (gap ++ rest).head?, isBlank c = true :=
  head_append h.ne_nil h.all_blank rest

theorem trimStart_append {blanks : List Char} (h : AllBlank blanks) (cs : List Char) :
    trimStart (blanks ++ cs) = trimStart cs :=
  List.dropWhile_append_of_pos h

theorem trimStart_of_head (h : ∀ c ∈ cs.head?, isBlank c = false) : trimStart cs = cs := by
  cases cs with
  | nil => rfl
  | cons c cs => exact trimStart_cons_of_not_blank (h c rfl) cs

theorem trim_of_ends (hfirst : ∀ c ∈ cs.head?, isBlank c = false)
    (hlast : ∀ c ∈ cs.getLast?, isBlank c = false) : trim cs = cs := by
  rw [trim, trimStart_of_head hfirst]
  refine List.rdropWhile_eq_self_iff.mpr fun hne => ?_
  rw [hlast _ (List.getLast?_eq_some_getLast hne)]
  decide

theorem head_trimStart (cs : List Char) : ∀ c ∈ (trimStart cs).head?, isBlank c = false := by
  intro c hc
  have hhead := List.head?_dropWhile_not isBlank cs
  rw [show cs.dropWhile isBlank = trimStart cs from rfl, hc] at hhead
  simpa using hhead

theorem exists_blanks_append_trimStart (cs : List Char) :
    ∃ blanks, AllBlank blanks ∧ cs = blanks ++ trimStart cs :=
  ⟨cs.takeWhile isBlank, allBlank_takeWhile cs, List.takeWhile_append_dropWhile.symm⟩

/-- **Blanks are read if there is at least one.** -/
theorem readBlanks_eq_some_iff :
    readBlanks cs = some rest
      ↔ ∃ gap, cs = gap ++ rest ∧ IsGap gap ∧ ∀ c ∈ rest.head?, isBlank c = false := by
  constructor
  · intro h
    unfold readBlanks at h
    split at h
    case isTrue hblank =>
      cases h
      refine ⟨cs.takeWhile isBlank, List.takeWhile_append_dropWhile.symm,
        ⟨fun hnil => ?_, allBlank_takeWhile cs⟩, head_trimStart cs⟩
      cases cs with
      | nil => cases hblank
      | cons c cs =>
        have hc : isBlank c = true := hblank
        rw [List.takeWhile_cons, hc] at hnil
        cases hnil
    case isFalse => cases h
  · rintro ⟨gap, rfl, hgap, hhead⟩
    obtain ⟨hne, hblank⟩ := hgap
    cases gap with
    | nil => exact absurd rfl hne
    | cons c gap =>
      have hc : (c :: gap ++ rest).head?.any isBlank = true := hblank c List.mem_cons_self
      rw [readBlanks, if_pos hc, trimStart_append hblank, trimStart_of_head hhead]

/-! ## Numbers -/

theorem exists_of_readNumber {least : Nat} {most : Option Nat} {n : Int}
    (h : readNumber least most cs = some (n, rest)) :
    ∃ (digits : List Char) (count m : Nat), cs = digits ++ rest ∧ Numeral count digits m
      ∧ least ≤ count ∧ (∀ limit ∈ most, count ≤ limit) ∧ n = m := by
  have hread (digits : List Char) (hfront : digits <+: cs)
      (hdigits : ∀ c ∈ digits, isDigit c = true) (hmost : ∀ limit ∈ most, digits.length ≤ limit)
      (h : (if digits.length < least then none
        else some ((natOfDigits digits : Int), cs.drop digits.length)) = some (n, rest)) :
      ∃ (digits : List Char) (count m : Nat), cs = digits ++ rest ∧ Numeral count digits m
        ∧ least ≤ count ∧ (∀ limit ∈ most, count ≤ limit) ∧ n = m := by
    split at h
    case isTrue => cases h
    case isFalse hleast =>
      cases h
      exact ⟨digits, digits.length, natOfDigits digits, (List.prefix_iff_eq_append.mp hfront).symm,
        ⟨rfl, hdigits, rfl⟩, Nat.not_lt.mp hleast, hmost, rfl⟩
  cases most with
  | none => exact hread _ (List.takeWhile_prefix _) (fun _ => List.mem_takeWhile_imp) (by nofun) h
  | some most =>
    refine hread _ ((List.takeWhile_prefix _).trans (List.take_prefix most cs))
      (fun _ => List.mem_takeWhile_imp) (fun limit hlimit => ?_) h
    cases hlimit
    exact (List.takeWhile_prefix _).length_le.trans (List.length_take_le most cs)

theorem readNumber_append {least count m : Nat} {most : Option Nat} {digits : List Char}
    (hdigits : Numeral count digits m) (hleast : least ≤ count)
    (hmost : ∀ limit ∈ most, count ≤ limit)
    (hrest : most = some count ∨ ∀ c ∈ rest.head?, isDigit c = false) :
    readNumber least most (digits ++ rest) = some ((m : Int), rest) := by
  have hanswer (read : List Char) (hread : read = digits) :
      (if read.length < least then none
        else some ((natOfDigits read : Int), (digits ++ rest).drop read.length))
        = some ((m : Int), rest) := by
    rw [hread, if_neg (by rw [hdigits.length]; omega), hdigits.value, List.drop_left]
  cases most with
  | none =>
    exact hanswer _ (takeWhile_isDigit_append hdigits.all_digits (hrest.resolve_left nofun))
  | some most =>
    refine hanswer _ ?_
    dsimp only
    rw [List.take_append, List.take_of_length_le (hdigits.length.trans_le (hmost most rfl))]
    refine takeWhile_isDigit_append hdigits.all_digits fun c hc => ?_
    rw [List.head?_take] at hc
    split at hc
    case isTrue => cases hc
    case isFalse hspace =>
      refine hrest.resolve_left (fun hcount => hspace ?_) c hc
      cases hcount
      rw [hdigits.length, Nat.sub_self]

/-- **Exactly so many digits are read, whatever follows.** -/
theorem readDigitsOf_eq_some_iff {count : Nat} {n : Int} :
    readDigitsOf count cs = some (n, rest)
      ↔ ∃ (digits : List Char) (m : Nat), cs = digits ++ rest ∧ Numeral count digits m ∧ n = m := by
  constructor
  · intro h
    obtain ⟨digits, length, m, rfl, hdigits, hleast, hmost, rfl⟩ := exists_of_readNumber h
    cases Nat.le_antisymm (hmost count rfl) hleast
    exact ⟨digits, m, rfl, hdigits, rfl⟩
  · rintro ⟨digits, m, rfl, hdigits, rfl⟩
    refine readNumber_append hdigits (Nat.le_refl count) (fun limit hlimit => ?_) (.inl rfl)
    cases hlimit
    exact Nat.le_refl count

/-! ## Parts of a second -/

/-- The nanoseconds that the digits of a part of a second stand for; what is less than a nanosecond
is dropped. -/
def nanosecondsOf (digits : List Char) : Nat := natOfDigits digits * 10 ^ 9 / 10 ^ digits.length

theorem nanosecondsOf_lt {digits : List Char} (h : ∀ c ∈ digits, isDigit c = true) :
    nanosecondsOf digits < 10 ^ 9 := by
  have hlt := natOfDigits_lt h
  rw [nanosecondsOf, Nat.div_lt_iff_lt_mul (Nat.pow_pos (by decide)), Nat.mul_comm (10 ^ 9)]
  exact Nat.mul_lt_mul_of_pos_right hlt (by decide)

/-- Digits beyond the ninth are dropped, and missing ones are zeros. -/
theorem nanosecondsOf_eq {digits : List Char} (h : ∀ c ∈ digits, isDigit c = true) :
    nanosecondsOf digits
      = natOfDigits (digits.take 9) * 10 ^ (9 - (digits.take 9).length) := by
  rcases Nat.le_total digits.length 9 with hle | hle
  · have hpow : 10 ^ 9 = 10 ^ (9 - digits.length) * 10 ^ digits.length := by
      rw [← Nat.pow_add, Nat.sub_add_cancel hle]
    rw [List.take_of_length_le hle, nanosecondsOf, hpow, ← Nat.mul_assoc,
      Nat.mul_div_cancel _ (Nat.pow_pos (by decide))]
  · have hlater : natOfDigits (digits.drop 9) < 10 ^ (digits.length - 9) := by
      rw [← List.length_drop]
      exact natOfDigits_lt fun c hc => h c (List.mem_of_mem_drop hc)
    have hvalue : natOfDigits digits
        = natOfDigits (digits.take 9) * 10 ^ (digits.length - 9) + natOfDigits (digits.drop 9) := by
      rw [← List.length_drop, ← natOfDigits_append, List.take_append_drop]
    have hpow : 10 ^ digits.length = 10 ^ (digits.length - 9) * 10 ^ 9 := by
      rw [← Nat.pow_add, Nat.sub_add_cancel hle]
    rw [List.length_take, Nat.min_eq_left hle, Nat.sub_self, Nat.pow_zero, Nat.mul_one,
      nanosecondsOf, hpow, Nat.mul_div_mul_right _ _ (by decide), hvalue, Nat.mul_comm,
      Nat.mul_add_div (Nat.pow_pos (by decide)), Nat.div_eq_of_lt hlater, Nat.add_zero]

theorem readFraction_append {digits : List Char} (hne : digits ≠ [])
    (h : ∀ c ∈ digits, isDigit c = true) (hrest : ∀ c ∈ rest.head?, isDigit c = false) :
    readFraction (digits ++ rest) = some ((nanosecondsOf digits : Int), rest) := by
  have hempty : digits.isEmpty = false := Bool.eq_false_iff.mpr (hne ∘ List.isEmpty_iff.mp)
  rw [readFraction, takeWhile_isDigit_append h hrest, dropWhile_isDigit_append h hrest, hempty,
    if_neg (by decide), nanosecondsOf_eq h]
  push_cast
  rfl

theorem exists_of_readFraction {n : Int} (h : readFraction cs = some (n, rest)) :
    ∃ digits, digits ≠ [] ∧ (∀ c ∈ digits, isDigit c = true) ∧ cs = digits ++ rest
      ∧ n = nanosecondsOf digits := by
  have hdigits : ∀ c ∈ cs.takeWhile isDigit, isDigit c = true := fun _ => List.mem_takeWhile_imp
  unfold readFraction at h
  dsimp only at h
  split at h
  case isTrue => cases h
  case isFalse hne =>
    cases h
    refine ⟨_, hne ∘ List.isEmpty_iff.mpr, hdigits, List.takeWhile_append_dropWhile.symm, ?_⟩
    rw [nanosecondsOf_eq hdigits]
    push_cast
    rfl

/-! ## Names -/

theorem stripWord?_eq_some_iff {word : List Char} :
    stripWord? word cs = some rest ↔ ∃ front, cs = front ++ rest ∧ front.map lowerAscii = word := by
  induction word generalizing cs with
  | nil => simp [stripWord?, eq_comm]
  | cons w word ih =>
    cases cs with
    | nil => simp [stripWord?]
    | cons c cs =>
      rw [stripWord?]
      split
      case isTrue hc =>
        rw [ih]
        constructor
        · rintro ⟨front, rfl, rfl⟩
          exact ⟨c :: front, rfl, by rw [List.map_cons, hc]⟩
        · rintro ⟨front, hcs, hfront⟩
          cases front with
          | nil => cases hfront
          | cons d front =>
            cases hcs
            exact ⟨front, rfl, (List.cons.inj hfront).2⟩
      case isFalse hc =>
        refine ⟨nofun, fun ⟨front, hcs, hfront⟩ => ?_⟩
        cases front with
        | nil => cases hfront
        | cons d front =>
          cases hcs
          exact absurd (List.cons.inj hfront).1.symm hc

/-- Letters that stand for the name with this number: its first three, in any case. -/
def Abbreviates (names : List (List Char)) (i : Nat) (letters : List Char) : Prop :=
  ∃ name, names[i]? = some name ∧ letters.map lowerAscii = name.take 3

theorem abbreviates_zero_iff {name letters : List Char} {names : List (List Char)} :
    Abbreviates (name :: names) 0 letters ↔ letters.map lowerAscii = name.take 3 := by
  simp [Abbreviates]

theorem abbreviates_succ_iff {name letters : List Char} {names : List (List Char)} {i : Nat} :
    Abbreviates (name :: names) (i + 1) letters ↔ Abbreviates names i letters := by
  simp [Abbreviates]

theorem Abbreviates.lt {names : List (List Char)} {i : Nat} {letters : List Char}
    (h : Abbreviates names i letters) : i < names.length := by
  obtain ⟨name, hname, -⟩ := h
  exact (List.getElem?_eq_some_iff.mp hname).1

/-- Names that start with three lower-case letters each, by which they can be told apart. -/
structure Abbreviable (names : List (List Char)) : Prop where
  nodup : (names.map (·.take 3)).Nodup
  length : ∀ name ∈ names, (name.take 3).length = 3
  lower : ∀ name ∈ names, (name.take 3).all Char.isLower = true

theorem abbreviable_weekdayNames : Abbreviable weekdayNames :=
  ⟨by decide, by decide, by decide⟩

theorem abbreviable_monthNames : Abbreviable monthNames :=
  ⟨by decide, by decide, by decide⟩

/-- What starts with a name starts with a letter. -/
theorem Abbreviates.isAlpha_head {names : List (List Char)} {i : Nat} {letters : List Char}
    (h : Abbreviates names i letters) (hnames : Abbreviable names) (rest : List Char) :
    ∀ c ∈ (letters ++ rest).head?, c.isAlpha = true := by
  obtain ⟨name, hname, hletters⟩ := h
  have hmem := List.mem_of_getElem? hname
  refine head_append (fun hnil => ?_)
    (isAlpha_of_map_lowerAscii hletters (List.all_eq_true.mp (hnames.lower name hmem))) rest
  have hlength := hnames.length name hmem
  rw [← hletters, hnil] at hlength
  cases hlength

/-- **A name is read if its first three letters are there**, in any case. -/
theorem readName_eq_some_iff {names : List (List Char)} (hnames : Abbreviable names) {i : Nat} :
    readName false cs names = some (i, rest)
      ↔ ∃ letters, cs = letters ++ rest ∧ Abbreviates names i letters := by
  induction names generalizing i with
  | nil => simp [readName, Abbreviates]
  | cons name names ih =>
    obtain ⟨hnodup, hlength, hlower⟩ := hnames
    rw [List.map_cons, List.nodup_cons] at hnodup
    rw [List.forall_mem_cons] at hlength hlower
    have hread {k : Nat} := ih ⟨hnodup.2, hlength.2, hlower.2⟩ (i := k)
    rw [readName]
    cases hstrip : stripWord? (name.take 3) cs with
    | none =>
      rw [Option.map_eq_some_iff]
      constructor
      · rintro ⟨⟨k, left⟩, hleft, heq⟩
        cases heq
        obtain ⟨letters, hcs, hletters⟩ := hread.mp hleft
        exact ⟨letters, hcs, abbreviates_succ_iff.mpr hletters⟩
      · rintro ⟨letters, hcs, hletters⟩
        cases i with
        | zero =>
          have hfirst := stripWord?_eq_some_iff.mpr ⟨letters, hcs, abbreviates_zero_iff.mp hletters⟩
          cases hstrip.symm.trans hfirst
        | succ k =>
          exact ⟨(k, rest), hread.mpr ⟨letters, hcs, abbreviates_succ_iff.mp hletters⟩, rfl⟩
    | some after =>
      obtain ⟨front, hcs, hfront⟩ := stripWord?_eq_some_iff.mp hstrip
      constructor
      · intro heq
        cases heq
        exact ⟨front, hcs, abbreviates_zero_iff.mpr hfront⟩
      · rintro ⟨letters, hcs', hletters⟩
        cases i with
        | zero =>
          have hfirst := stripWord?_eq_some_iff.mpr
            ⟨letters, hcs', abbreviates_zero_iff.mp hletters⟩
          cases hstrip.symm.trans hfirst
          rfl
        | succ k =>
          -- two names that are both there begin with the same letters
          obtain ⟨other, hget, hother⟩ := abbreviates_succ_iff.mp hletters
          have hmem : other ∈ names := List.mem_of_getElem? hget
          have hlengths : (front.map lowerAscii).length = (letters.map lowerAscii).length := by
            rw [hfront, hother, hlength.1, hlength.2 other hmem]
          rw [List.length_map, List.length_map] at hlengths
          have hsame : front = letters := (List.append_inj (hcs.symm.trans hcs') hlengths).1
          refine absurd (List.mem_map.mpr ⟨other, hmem, ?_⟩) hnodup.1
          rw [← hother, ← hfront, hsame]

/-! ## Offsets -/

/-- An offset as it is written: `Z`, or a sign and two digits each for the hours and the minutes,
with something between them. -/
inductive IsOffset (style : OffsetStyle) (between : List Char) : List Char → Int → Prop
  | zulu {c : Char} (hstyle : style.zulu = true) (hc : c = 'Z' ∨ c = 'z') :
      IsOffset style between [c] 0
  | ahead {hours minutes : List Char} {h m : Nat} (hhours : Numeral 2 hours h)
      (hminutes : Numeral 2 minutes m) (hm : m ≤ 59) :
      IsOffset style between ('+' :: hours ++ between ++ minutes) (h * 60 + m)
  | behind {sign : Char} {hours minutes : List Char} {h m : Nat}
      (hsign : sign = '-' ∨ sign = '\u2212' ∧ style.minusSign = true)
      (hhours : Numeral 2 hours h) (hminutes : Numeral 2 minutes m) (hm : m ≤ 59) :
      IsOffset style between (sign :: hours ++ between ++ minutes) (-(h * 60 + m))

/-- An offset starts with neither a digit nor a point. -/
theorem IsOffset.head {style : OffsetStyle} {between text : List Char} {offset : Int}
    (h : IsOffset style between text offset) :
    ∀ c ∈ text.head?, isDigit c = false ∧ c ≠ '.' := by
  intro c hc
  cases h with
  | zulu _ hz =>
    cases hc
    rcases hz with rfl | rfl <;> decide
  | ahead =>
    cases hc
    decide
  | behind hsign =>
    cases hc
    rcases hsign with rfl | ⟨rfl, -⟩ <;> decide

/-- An offset has a sign if it cannot be `Z`. -/
theorem IsOffset.exists_sign {style : OffsetStyle} {between text : List Char} {offset : Int}
    (h : IsOffset style between text offset) (hstyle : style.zulu = false) :
    ∃ sign clock, text = sign :: clock ∧ (sign = '+' ∨ sign = '-' ∨ sign = '\u2212') := by
  cases h with
  | zulu hzulu => cases hstyle.symm.trans hzulu
  | ahead => exact ⟨_, _, rfl, .inl rfl⟩
  | behind hsign => exact ⟨_, _, rfl, .inr (hsign.imp_right And.left)⟩

theorem IsOffset.getLast {style : OffsetStyle} {between text : List Char} {offset : Int}
    (h : IsOffset style between text offset) :
    text ≠ [] ∧ ∀ c ∈ text.getLast?, isBlank c = false := by
  have hdigits {minutes : List Char} {m : Nat} (hminutes : Numeral 2 minutes m)
      (front : List Char) :
      front ++ minutes ≠ [] ∧ ∀ c ∈ (front ++ minutes).getLast?, isBlank c = false := by
    have hne := hminutes.ne_nil (by decide)
    refine ⟨List.append_ne_nil_of_right_ne_nil _ hne, fun c hc => ?_⟩
    rw [List.getLast?_append_of_ne_nil _ hne] at hc
    exact isBlank_of_isDigit (hminutes.all_digits c (List.mem_of_getLast? hc))
  cases h with
  | zulu _ hz =>
    refine ⟨List.cons_ne_nil _ _, ?_⟩
    rintro c ⟨⟩
    rcases hz with rfl | rfl <;> decide
  | ahead _ hminutes => exact hdigits hminutes _
  | behind _ _ hminutes => exact hdigits hminutes _

/-- Two digits of hours make offsets of less than a hundred hours. -/
theorem IsOffset.natAbs_lt {style : OffsetStyle} {between text : List Char} {offset : Int}
    (h : IsOffset style between text offset) : offset.natAbs < 100 * 60 := by
  cases h with
  | zulu => decide
  | ahead hhours hminutes hm =>
    have hlt := hhours.lt
    omega
  | behind _ hhours hminutes hm =>
    have hlt := hhours.lt
    omega

theorem readOffsetSign_eq_some_iff {style : OffsetStyle} {negative : Bool} :
    readOffsetSign style cs = some (negative, rest)
      ↔ ∃ sign, cs = sign :: rest ∧ (sign = '+' ∧ negative = false
          ∨ (sign = '-' ∨ sign = '\u2212' ∧ style.minusSign = true) ∧ negative = true) := by
  constructor
  · intro h
    unfold readOffsetSign at h
    split at h
    case h_1 =>
      cases h
      exact ⟨'+', rfl, .inl ⟨rfl, rfl⟩⟩
    case h_2 =>
      cases h
      exact ⟨'-', rfl, .inr ⟨.inl rfl, rfl⟩⟩
    case h_3 sign cs hplus hminus =>
      split at h
      case isTrue hsign =>
        cases h
        exact ⟨sign, rfl, .inr ⟨.inr hsign, rfl⟩⟩
      case isFalse => cases h
    case h_4 => cases h
  · rintro ⟨sign, rfl, ⟨rfl, rfl⟩ | ⟨rfl | ⟨rfl, hstyle⟩, rfl⟩⟩
    · rfl
    · rfl
    · rw [readOffsetSign, if_pos ⟨rfl, hstyle⟩]
      all_goals decide

/-- What follows the sign of an offset. -/
theorem readClock_eq_some_iff {style : OffsetStyle} {between : List Char}
    {separator : List Char → Option (List Char)} (hstyle : style.hoursAlone = false)
    (hseparator : ∀ cs rest, separator cs = some rest ↔ cs = between ++ rest) {negative : Bool}
    {offset : Int} :
    (do
      let (hours, cs) ← readDigitsOf 2 cs
      let cs ← separator cs
      let (minutes, cs) ←
        if style.hoursAlone ∧ cs = [] then some ((0 : Int), []) else readDigitsOf 2 cs
      if 59 < minutes then none
      else
        let offset := hours * 60 + minutes
        some (if negative then -offset else offset, cs)) = some (offset, rest)
      ↔ ∃ (hours minutes : List Char) (h m : Nat), cs = hours ++ between ++ minutes ++ rest
          ∧ Numeral 2 hours h ∧ Numeral 2 minutes m ∧ m ≤ 59
          ∧ offset = if negative then -((h : Int) * 60 + m) else h * 60 + m := by
  simp only [hstyle, Bool.false_eq_true, false_and, if_false, Option.bind_eq_bind,
    Option.bind_eq_some_iff, Prod.exists, readDigitsOf_eq_some_iff, hseparator]
  constructor
  · rintro ⟨_, behind, ⟨hours, h, rfl, hhours, rfl⟩, second, rfl, _, after,
      ⟨minutes, m, rfl, hminutes, rfl⟩, hanswer⟩
    split at hanswer
    case isTrue => cases hanswer
    case isFalse hm =>
      cases hanswer
      exact ⟨hours, minutes, h, m, by simp, hhours, hminutes, by omega, rfl⟩
  · rintro ⟨hours, minutes, h, m, rfl, hhours, hminutes, hm, rfl⟩
    refine ⟨h, _, ⟨hours, h, by simp only [List.append_assoc], hhours, rfl⟩, _, rfl, m, rest,
      ⟨minutes, m, rfl, hminutes, rfl⟩, ?_⟩
    rw [if_neg (by omega)]

theorem readOffset_eq_some_iff {style : OffsetStyle} {between : List Char}
    {separator : List Char → Option (List Char)} (hstyle : style.hoursAlone = false)
    (hseparator : ∀ cs rest, separator cs = some rest ↔ cs = between ++ rest) {offset : Int} :
    readOffset style separator cs = some (offset, rest)
      ↔ ∃ text, cs = text ++ rest ∧ IsOffset style between text offset := by
  unfold readOffset
  split
  case isTrue hzulu =>
    obtain ⟨hzulu, hhead⟩ := hzulu
    constructor
    · intro h
      cases h
      cases cs with
      | nil => simp at hhead
      | cons c cs => exact ⟨[c], rfl, .zulu hzulu (by simpa using hhead)⟩
    · rintro ⟨text, rfl, htext⟩
      cases htext with
      | zulu => rfl
      | ahead => simp at hhead
      | behind hsign => rcases hsign with rfl | ⟨rfl, -⟩ <;> simp at hhead
  case isFalse hzulu =>
    rw [Option.bind_eq_bind, Option.bind_eq_some_iff]
    simp only [Prod.exists, readOffsetSign_eq_some_iff]
    constructor
    · rintro ⟨negative, behind, ⟨sign, rfl, hsign⟩, hclock⟩
      obtain ⟨hours, minutes, h, m, rfl, hhours, hminutes, hm, rfl⟩ :=
        (readClock_eq_some_iff hstyle hseparator).mp hclock
      rcases hsign with ⟨rfl, rfl⟩ | ⟨hsign, rfl⟩
      · exact ⟨_, by simp, .ahead hhours hminutes hm⟩
      · exact ⟨_, by simp, .behind hsign hhours hminutes hm⟩
    · rintro ⟨text, rfl, htext⟩
      cases htext with
      | zulu hstyle hc => simp_all
      | @ahead hours minutes h m hhours hminutes hm =>
        exact ⟨false, _, ⟨'+', rfl, .inl ⟨rfl, rfl⟩⟩,
          (readClock_eq_some_iff hstyle hseparator).mpr
            ⟨hours, minutes, h, m, rfl, hhours, hminutes, hm, rfl⟩⟩
      | @behind sign hours minutes h m hsign hhours hminutes hm =>
        exact ⟨true, _, ⟨sign, rfl, .inr ⟨hsign, rfl⟩⟩,
          (readClock_eq_some_iff hstyle hseparator).mpr
            ⟨hours, minutes, h, m, rfl, hhours, hminutes, hm, rfl⟩⟩

/-! ## Comments -/

/-- What may stand between the parentheses of a comment. -/
inductive IsCommentBody : List Char → Prop
  | nil : IsCommentBody []
  | escaped {c : Char} {body : List Char} (hbody : IsCommentBody body) :
      IsCommentBody ('\\' :: c :: body)
  | nested {inner body : List Char} (hinner : IsCommentBody inner) (hbody : IsCommentBody body) :
      IsCommentBody ('(' :: inner ++ ')' :: body)
  | plain {c : Char} {body : List Char} (hc : c ≠ '\\' ∧ c ≠ '(' ∧ c ≠ ')')
      (hbody : IsCommentBody body) : IsCommentBody (c :: body)

/-- Comments, each behind any blanks. -/
inductive IsComments : List Char → Prop
  | nil : IsComments []
  | comment {blanks body rest : List Char} (hblanks : AllBlank blanks) (hbody : IsCommentBody body)
      (hrest : IsComments rest) : IsComments (blanks ++ '(' :: body ++ ')' :: rest)

/-- Going on behind the end of a comment, when `depth` comments are open around it. -/
def leaveComment (depth : Nat) (cs : List Char) : Option (List Char) :=
  match depth with
  | 0 => some cs
  | depth + 1 => skipComment depth cs

theorem skipComment_append {body : List Char} (hbody : IsCommentBody body) (depth : Nat)
    (rest : List Char) : skipComment depth (body ++ ')' :: rest) = leaveComment depth rest := by
  induction hbody generalizing depth rest with
  | nil => cases depth <;> rfl
  | escaped hbody ih => exact ih depth rest
  | nested hinner hbody ihinner ihbody =>
    rw [List.cons_append, List.cons_append, List.append_assoc, List.cons_append, skipComment,
      ihinner (depth + 1)]
    exact ihbody depth rest
  | plain hc hbody ih =>
    obtain ⟨hescape, hopen, hclose⟩ := hc
    rw [List.cons_append, skipComment, ih depth rest]
    all_goals simp_all

theorem exists_of_skipComment {depth : Nat} (h : skipComment depth cs = some rest) :
    ∃ body after, IsCommentBody body ∧ cs = body ++ ')' :: after
      ∧ leaveComment depth after = some rest := by
  -- behind a comment in a comment, the text is read on from a later place than the next one
  induction hlength : cs.length using Nat.strong_induction_on generalizing cs depth with
  | _ length ih =>
    unfold skipComment at h
    split at h
    · cases h
    case h_2 cs =>
      cases cs with
      | nil => cases h
      | cons c cs =>
        obtain ⟨body, after, hbody, rfl, hleave⟩ := ih cs.length (by simp at hlength; omega) h rfl
        exact ⟨_, after, .escaped hbody, rfl, hleave⟩
    case h_3 cs =>
      obtain ⟨inner, behind, hinner, rfl, hbehind⟩ := ih cs.length (by simp at hlength; omega) h rfl
      obtain ⟨body, after, hbody, rfl, hleave⟩ :=
        ih behind.length (by simp at hlength; omega) hbehind rfl
      exact ⟨_, after, .nested hinner hbody, by simp, hleave⟩
    case h_4 cs => exact ⟨[], cs, .nil, rfl, h⟩
    case h_5 depth cs => exact ⟨[], cs, .nil, rfl, h⟩
    case h_6 c cs hescape hopen hclose hcloseDeep =>
      obtain ⟨body, after, hbody, rfl, hleave⟩ := ih cs.length (by simp at hlength; omega) h rfl
      have hplain : c ≠ ')' := by
        cases depth with
        | zero => exact hclose rfl
        | succ depth => exact hcloseDeep depth rfl
      exact ⟨c :: body, after, .plain ⟨hescape, hopen, hplain⟩ hbody, rfl, hleave⟩

theorem readComment_append {blanks body : List Char} (hblanks : AllBlank blanks)
    (hbody : IsCommentBody body) (rest : List Char) :
    readComment (blanks ++ '(' :: body ++ ')' :: rest) = some ((), rest) := by
  have hskip : skipComment 0 (body ++ ')' :: rest) = some rest := skipComment_append hbody 0 rest
  rw [readComment, List.append_assoc, trimStart_append hblanks, List.cons_append,
    trimStart_cons_of_not_blank (by decide), expect, if_pos rfl, Option.bind_some, hskip,
    Option.map_some]

theorem exists_of_readComment {answer : Unit} (h : readComment cs = some (answer, rest)) :
    ∃ blanks body, AllBlank blanks ∧ IsCommentBody body
      ∧ cs = blanks ++ '(' :: body ++ ')' :: rest := by
  obtain ⟨opened, hopened, h⟩ := Option.bind_eq_some_iff.mp h
  obtain ⟨after, hskip, heq⟩ := Option.map_eq_some_iff.mp h
  cases heq
  obtain ⟨blanks, hblanks, hcs⟩ := exists_blanks_append_trimStart cs
  obtain ⟨body, left, hbody, rfl, hleave⟩ := exists_of_skipComment hskip
  cases hleave
  refine ⟨blanks, body, hblanks, hbody, ?_⟩
  rw [hcs, expect_eq_some_iff.mp hopened, List.append_assoc, List.cons_append]

/-- **Nothing is left behind comments that follow each other to the end of the text.** -/
theorem skipComments_eq_nil_iff : skipComments cs = [] ↔ IsComments cs := by
  induction hlength : cs.length using Nat.strong_induction_on generalizing cs with
  | _ length ih =>
    rw [skipComments]
    cases hread : readComment cs with
    | none =>
      constructor
      · intro hcs
        rw [show cs = [] from hcs]
        exact .nil
      · rintro (_ | @⟨blanks, body, rest, hblanks, hbody, hrest⟩)
        · rfl
        · cases hread.symm.trans (readComment_append hblanks hbody rest)
    | some answer =>
      obtain ⟨⟨⟩, rest⟩ := answer
      obtain ⟨blanks, body, hblanks, hbody, hcs⟩ := exists_of_readComment hread
      have hshorter : rest.length < cs.length := by
        rw [hcs, List.length_append, List.length_append, List.length_cons, List.length_cons]
        omega
      rw [Read.ofPair?, dif_pos hshorter]
      refine (ih rest.length (hlength ▸ hshorter) rfl).trans ⟨fun hrest => ?_, fun hcomments => ?_⟩
      · rw [hcs]
        exact .comment hblanks hbody hrest
      · obtain _ | @⟨blanks, body, rest, hblanks, hbody, hrest⟩ := hcomments
        · cases hread
        · cases hread.symm.trans (readComment_append hblanks hbody rest)
          exact hrest

end CheckScript.Calendar
