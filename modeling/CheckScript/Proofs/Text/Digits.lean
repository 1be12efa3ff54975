import Mathlib.Data.Nat.Digits.Lemmas
import CheckScript.Text.Digit

/-!
# Numbers in decimal digits

What some digits write (`Numeral`), and that the digits of a number write it, with as many zeros in
front as there have to be (`numeral_paddedDigits`).
-/

namespace CheckScript.Text

/-- Some number of digits that write a number. -/
structure Numeral (count : Nat) (digits : List Char) (n : Nat) : Prop where
  length : digits.length = count
  all_digits : ∀ c ∈ digits, isDigit c = true
  value : natOfDigits digits = n

theorem Numeral.ne_nil {count n : Nat} {digits : List Char} (h : Numeral count digits n)
    (hcount : 0 < count) : digits ≠ [] :=
  List.ne_nil_of_length_pos (h.length ▸ hcount)

/-- The digits say how many they are and what they write. -/
theorem Numeral.unique {count count' n n' : Nat} {digits : List Char} (h : Numeral count digits n)
    (h' : Numeral count' digits n') : count = count' ∧ n = n' :=
  ⟨h.length.symm.trans h'.length, h.value.symm.trans h'.value⟩

/-! ## Values -/

theorem natOfDigits_eq_ofDigitChars (digits : List Char) :
    natOfDigits digits = Nat.ofDigitChars 10 digits 0 := by
  rw [natOfDigits, Nat.ofDigitChars_eq_foldl]
  congr 1
  funext n c
  rw [Nat.mul_comm, digitValue]
  rfl

theorem natOfDigits_append (front back : List Char) :
    natOfDigits (front ++ back) = natOfDigits front * 10 ^ back.length + natOfDigits back := by
  rw [natOfDigits_eq_ofDigitChars, Nat.ofDigitChars_append, Nat.ofDigitChars_eq_ofDigitChars_zero,
    ← natOfDigits_eq_ofDigitChars, ← natOfDigits_eq_ofDigitChars, Nat.mul_comm]

theorem digitValue_lt {c : Char} (h : isDigit c = true) : digitValue c < 10 := by
  simp only [isDigit, Bool.and_eq_true, decide_eq_true_eq] at h
  rw [digitValue]
  omega

theorem natOfDigits_lt {digits : List Char} (h : ∀ c ∈ digits, isDigit c = true) :
    natOfDigits digits < 10 ^ digits.length := by
  induction digits using List.reverseRecOn with
  | nil => decide
  | append_singleton digits c ih =>
    have hfront := ih fun d hd => h d (List.mem_append_left _ hd)
    have hlast : natOfDigits [c] < 10 := by
      have hc := digitValue_lt (h c (List.mem_append_right _ List.mem_cons_self))
      rw [natOfDigits, List.foldl_cons, List.foldl_nil]
      omega
    rw [natOfDigits_append, List.length_append, List.length_singleton, Nat.pow_succ]
    omega

theorem Numeral.lt {count n : Nat} {digits : List Char} (h : Numeral count digits n) :
    n < 10 ^ count := by
  rw [← h.value, ← h.length]
  exact natOfDigits_lt h.all_digits

/-! ## Digits of a number -/

theorem isDigit_of_char {c : Char} (h : c.isDigit = true) : isDigit c = true := by
  simp only [Char.isDigit, Bool.and_eq_true, decide_eq_true_eq, ge_iff_le, UInt32.le_iff_toNat_le]
    at h
  simp only [isDigit, Bool.and_eq_true, decide_eq_true_eq]
  exact h

/-- **The digits of a number write it.** -/
theorem numeral_paddedDigits {width n : Nat} (hwidth : 0 < width) (hn : n < 10 ^ width) :
    Numeral width (paddedDigits width n) n where
  length := by
    have hle := (Nat.length_toDigits_le_iff (b := 10) (by decide) hwidth).mpr hn
    rw [paddedDigits, List.length_append, List.length_replicate]
    omega
  all_digits c hc := by
    rcases List.mem_append.mp hc with hzero | hdigit
    · rw [List.eq_of_mem_replicate hzero]
      decide
    · exact isDigit_of_char (Nat.isDigit_of_mem_toDigits (by decide) (Nat.le_refl 10) hdigit)
  value := by
    rw [paddedDigits, natOfDigits_eq_ofDigitChars, Nat.ofDigitChars_append,
      Nat.ofDigitChars_replicate_zero, Nat.mul_zero, Nat.ofDigitChars_ten_toDigits]

/-! ## Digits in front of something else -/

section

variable {digits rest : List Char}

theorem takeWhile_isDigit_append (hdigits : ∀ c ∈ digits, isDigit c = true)
    (hrest : ∀ c ∈ rest.head?, isDigit c = false) :
    (digits ++ rest).takeWhile isDigit = digits := by
  rw [List.takeWhile_append_of_pos hdigits]
  cases rest with
  | nil => simp
  | cons c rest => simp [hrest c rfl]

theorem dropWhile_isDigit_append (hdigits : ∀ c ∈ digits, isDigit c = true)
    (hrest : ∀ c ∈ rest.head?, isDigit c = false) :
    (digits ++ rest).dropWhile isDigit = rest := by
  rw [List.dropWhile_append_of_pos hdigits]
  cases rest with
  | nil => rfl
  | cons c rest => simp [hrest c rfl]

end

end CheckScript.Text
