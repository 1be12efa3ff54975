import CheckScript.Json.Basic
import CheckScript.Text.Digit

/-!
# Reading JSON numbers

A number is an optional minus, an integer part without leading zeros, and optionally a fraction and
an exponent. Without fraction and exponent it is an integer, if it fits 64 bits with its sign; minus
zero is a double.

Otherwise its value is found in two rounded steps. The leading digits that fit 64 bits are gathered
in one integer (`Gathered`), and each integer digit that does not fit raises the decimal exponent;
the integer is rounded to a double and then multiplied or divided by a power of ten, itself a
double. The result can differ from the nearest double in its last place. Beyond the largest double
there is no number.
-/

namespace CheckScript.Json

open Text

/-! ## Gathering digits -/

/-- The largest number of 64 bits. -/
def maxWord : Nat := Nat.pow 2 64 - 1

/-- Digits gathered in an integer of 64 bits, with the power of ten it is to be scaled by. -/
structure Gathered where
  significand : Nat
  exponent : Int

/-- Gathers integer digits; from the first that does not fit, each digit only scales. -/
def gatherInteger (acc : Gathered) : List Char → Gathered
  | [] => acc
  | c :: cs =>
    let next := acc.significand * 10 + digitValue c
    if next ≤ maxWord then gatherInteger ⟨next, acc.exponent⟩ cs
    else ⟨acc.significand, acc.exponent + (cs.length + 1)⟩

/-- Gathers digits after the point; those from the first that does not fit are dropped. -/
def gatherFraction (acc : Gathered) : List Char → Gathered
  | [] => acc
  | c :: cs =>
    let next := acc.significand * 10 + digitValue c
    if next ≤ maxWord then gatherFraction ⟨next, acc.exponent - 1⟩ cs else acc

/-! ## Scaling -/

/-- The double nearest to a power of ten, for powers up to 308. -/
def powerOfTen (k : Nat) : Binary64 := (Binary64.ofDecimal 1 k).getD (Binary64.zero false)

/-- Divides `steps` times by the largest power of ten. -/
def divideDown (x : Binary64) : Nat → Option Binary64
  | 0 => some x
  | steps + 1 =>
    if x.isZero then some x else (x.div (powerOfTen 308)).bind fun y => divideDown y steps

/-- Divides by the positive power `k` of ten, in steps of at most 308. -/
def scaleDown (x : Binary64) (k : Nat) : Option Binary64 :=
  let steps := (k - 1) / 308
  (divideDown x steps).bind fun y =>
    if y.isZero then some y else y.div (powerOfTen (k - 308 * steps))

/-- Multiplies by a power of ten. -/
def scaleUp (x : Binary64) (k : Nat) : Option Binary64 :=
  if k ≤ 308 then x.mul (powerOfTen k) else if x.isZero then some x else none

/-- The double of gathered digits. -/
def Gathered.toDouble (g : Gathered) : Option Binary64 :=
  (Binary64.ofNat g.significand).bind fun x =>
    if 0 ≤ g.exponent then scaleUp x g.exponent.toNat else scaleDown x (-g.exponent).toNat

/-! ## Numbers -/

/-- Takes a minus off the front; whether there was one, and what follows. -/
def readMinus : List Char → Bool × List Char
  | '-' :: rest => (true, rest)
  | cs => (false, cs)

/-- Takes a sign off the front; whether it was a minus, and what follows. -/
def readSign : List Char → Bool × List Char
  | '+' :: rest => (false, rest)
  | cs => readMinus cs

/-- Reads at least one digit. -/
def readSomeDigits (cs : List Char) : Option (List Char × List Char) :=
  if (readDigits cs).1.isEmpty then none else some (readDigits cs)

/-- Reads the integer part: a zero, or digits that do not start with one. -/
def readInteger (cs : List Char) : Option (List Char × List Char) :=
  (readSomeDigits cs).bind fun parts =>
    if parts.1.head? = some '0' ∧ 1 < parts.1.length then none else some parts

/-- Reads the fraction, if there is one: its digits. -/
def readFraction : List Char → Option (Option (List Char) × List Char)
  | '.' :: rest => (readSomeDigits rest).map fun parts => (some parts.1, parts.2)
  | cs => some (none, cs)

/-- Reads an exponent with its sign, from behind its letter. -/
def readExponent (cs : List Char) : Option (Option Int × List Char) :=
  (readSomeDigits (readSign cs).2).map fun parts =>
    let n : Int := natOfDigits parts.1
    (some (if (readSign cs).1 then -n else n), parts.2)

/-- Reads the exponent, if there is one. -/
def readExponentPart : List Char → Option (Option Int × List Char)
  | 'e' :: rest => readExponent rest
  | 'E' :: rest => readExponent rest
  | cs => some (none, cs)

/-- The number of an integer part alone. -/
def integerNumber (negative : Bool) (digits : List Char) : Option Number :=
  let g := gatherInteger ⟨0, 0⟩ digits
  if g.exponent = 0 ∧ negative = false then some (.int g.significand)
  else if g.exponent = 0 ∧ 0 < g.significand ∧ g.significand ≤ Nat.pow 2 63 then
    some (.int (-(g.significand : Int)))
  else g.toDouble.map fun x => .float (x.withSign negative)

/-- The number of an integer part with a fraction or an exponent. -/
def doubleNumber (negative : Bool) (digits fraction : List Char) (exponent : Int) : Option Number :=
  let g := gatherFraction (gatherInteger ⟨0, 0⟩ digits) fraction
  (Gathered.toDouble ⟨g.significand, g.exponent + exponent⟩).map fun x =>
    .float (x.withSign negative)

/-- The number of its parts. -/
def numberOfParts (negative : Bool) (digits : List Char) :
    Option (List Char) → Option Int → Option Number
  | none, none => integerNumber negative digits
  | fraction, exponent => doubleNumber negative digits (fraction.getD []) (exponent.getD 0)

/-- Reads a number. -/
def readNumber (cs : List Char) : Option (Number × List Char) :=
  (readInteger (readMinus cs).2).bind fun (digits, rest) =>
  (readFraction rest).bind fun (fraction, rest) =>
  (readExponentPart rest).bind fun (exponent, rest) =>
  (numberOfParts (readMinus cs).1 digits fraction exponent).map (·, rest)

/-! ## What is left is shorter -/

theorem length_of_readMinus (cs : List Char) : (readMinus cs).2.length ≤ cs.length := by
  unfold readMinus
  split <;> simp

theorem length_of_readSign (cs : List Char) : (readSign cs).2.length ≤ cs.length := by
  unfold readSign
  split
  · simp
  · exact length_of_readMinus cs

theorem length_of_readSomeDigits {cs : List Char} {parts : List Char × List Char}
    (h : readSomeDigits cs = some parts) : parts.2.length < cs.length := by
  have hlen : (readDigits cs).1.length + (readDigits cs).2.length = cs.length := by
    rw [readDigits, ← List.length_append, List.takeWhile_append_dropWhile]
  unfold readSomeDigits at h
  split at h
  · simp at h
  · next hne =>
    simp only [Option.some.injEq] at h
    rw [h] at hlen hne
    cases hd : parts.1 with
    | nil => simp [hd] at hne
    | cons d ds =>
      simp only [hd, List.length_cons] at hlen
      omega

theorem length_of_readInteger {cs digits rest : List Char}
    (h : readInteger cs = some (digits, rest)) : rest.length < cs.length := by
  obtain ⟨parts, hparts, h⟩ := Option.bind_eq_some_iff.mp h
  split at h
  · simp at h
  · simp only [Option.some.injEq] at h
    subst h
    exact length_of_readSomeDigits hparts

theorem length_of_readFraction {cs rest : List Char} {f : Option (List Char)}
    (h : readFraction cs = some (f, rest)) : rest.length ≤ cs.length := by
  unfold readFraction at h
  split at h
  · obtain ⟨parts, hparts, heq⟩ := Option.map_eq_some_iff.mp h
    have := length_of_readSomeDigits hparts
    simp only [Prod.mk.injEq] at heq
    rw [heq.2] at this
    simp only [List.length_cons]
    omega
  · simp only [Option.some.injEq, Prod.mk.injEq] at h
    exact Nat.le_of_eq (congrArg List.length h.2.symm)

theorem length_of_readExponent {cs rest : List Char} {e : Option Int}
    (h : readExponent cs = some (e, rest)) : rest.length ≤ cs.length := by
  obtain ⟨parts, hparts, heq⟩ := Option.map_eq_some_iff.mp h
  have h₁ := length_of_readSomeDigits hparts
  have h₂ := length_of_readSign cs
  simp only [Prod.mk.injEq] at heq
  rw [heq.2] at h₁
  omega

theorem length_of_readExponentPart {cs rest : List Char} {e : Option Int}
    (h : readExponentPart cs = some (e, rest)) : rest.length ≤ cs.length := by
  unfold readExponentPart at h
  split at h
  · exact Nat.le_succ_of_le (length_of_readExponent h)
  · exact Nat.le_succ_of_le (length_of_readExponent h)
  · simp only [Option.some.injEq, Prod.mk.injEq] at h
    exact Nat.le_of_eq (congrArg List.length h.2.symm)

/-- **Reading a number leaves a shorter text.** -/
theorem length_of_readNumber {cs rest : List Char} {n : Number}
    (h : readNumber cs = some (n, rest)) : rest.length < cs.length := by
  obtain ⟨⟨digits, r₁⟩, h₁, h⟩ := Option.bind_eq_some_iff.mp h
  obtain ⟨⟨fraction, r₂⟩, h₂, h⟩ := Option.bind_eq_some_iff.mp h
  obtain ⟨⟨exponent, r₃⟩, h₃, h⟩ := Option.bind_eq_some_iff.mp h
  obtain ⟨_, _, heq⟩ := Option.map_eq_some_iff.mp h
  simp only [Prod.mk.injEq] at heq
  have l₀ := length_of_readMinus cs
  have l₁ := length_of_readInteger h₁
  have l₂ := length_of_readFraction h₂
  have l₃ := length_of_readExponentPart h₃
  rw [← heq.2]
  omega

end CheckScript.Json
