/-!
# Double precision numbers

The finite numbers of the binary64 format, kept exactly: a sign, and a magnitude
`mantissa * 2 ^ exponent`. Arithmetic is exact arithmetic on `Nat` followed by one rounding to the
nearest number, ties to the even mantissa.

## Contents

* `roundRatio`: the magnitude nearest to a quotient; `none` beyond the largest number.
* `ofNat`, `mul`, `div`: rounded operations.
* `ofDecimal`: the number nearest to `digits * 10 ^ exponent`.
-/

namespace CheckScript

/-- A finite double: `± mantissa * 2 ^ exponent`, with `mantissa < 2 ^ 53` and
`-1074 ≤ exponent`. -/
structure Binary64 where
  negative : Bool
  mantissa : Nat
  exponent : Int
  deriving DecidableEq, Repr

namespace Binary64

/-- The exponent of the smallest numbers. -/
def minExponent : Int := -1074

/-- The exponent of the largest numbers. -/
def maxExponent : Int := 971

/-- Zero with a sign. -/
def zero (negative : Bool) : Binary64 := ⟨negative, 0, minExponent⟩

/-- The number is a zero. -/
def isZero (x : Binary64) : Bool := x.mantissa == 0

/-- The same magnitude with the given sign. -/
def withSign (x : Binary64) (negative : Bool) : Binary64 := { x with negative }

/-- The quotient rounded to the nearest natural number, a tie to the even one. -/
def roundDiv (num den : Nat) : Nat :=
  let q := num / den
  let r := num % den
  if 2 * r < den then q
  else if den < 2 * r then q + 1
  else if q % 2 = 0 then q else q + 1

/-- Numerator and denominator of `num / den` divided by `2 ^ e`. -/
def scaleRatio (num den : Nat) (e : Int) : Nat × Nat :=
  if 0 ≤ e then (num, den * Nat.pow 2 e.toNat) else (num * Nat.pow 2 (-e).toNat, den)

/-- The exponent that a number of the size of `num / den` has: the one that gives the mantissa 53
bits, but not below the smallest. -/
def exponentFor (num den : Nat) : Int :=
  let e : Int := (num.log2 : Int) - den.log2 - 52
  let (n, d) := scaleRatio num den e
  max minExponent (if Nat.pow 2 52 * d ≤ n then e else e - 1)

/-- The magnitude nearest to `num / den`; `none` if it is beyond the largest number. -/
def roundRatio (num den : Nat) : Option Binary64 :=
  if num = 0 then some (zero false)
  else
    let e := exponentFor num den
    let (n, d) := scaleRatio num den e
    let m := roundDiv n d
    let (m, e) := if m = Nat.pow 2 53 then (Nat.pow 2 52, e + 1) else (m, e)
    if maxExponent < e then none else some ⟨false, m, e⟩

/-- The magnitude as a quotient of natural numbers. -/
def toRatio (x : Binary64) : Nat × Nat :=
  if 0 ≤ x.exponent then (x.mantissa * Nat.pow 2 x.exponent.toNat, 1)
  else (x.mantissa, Nat.pow 2 (-x.exponent).toNat)

/-- The number nearest to a natural number. -/
def ofNat (n : Nat) : Option Binary64 := roundRatio n 1

/-- The rounded product; `none` if it is out of range. -/
def mul (x y : Binary64) : Option Binary64 :=
  let (a, b) := x.toRatio
  let (c, d) := y.toRatio
  (roundRatio (a * c) (b * d)).map (·.withSign (x.negative != y.negative))

/-- The rounded quotient by a number that is not zero; `none` if it is out of range. -/
def div (x y : Binary64) : Option Binary64 :=
  let (a, b) := x.toRatio
  let (c, d) := y.toRatio
  (roundRatio (a * d) (b * c)).map (·.withSign (x.negative != y.negative))

/-- The number of decimal digits of `n`. -/
def decimalLength (n : Nat) : Nat := (Nat.toDigits 10 n).length

/-- The magnitude nearest to `digits * 10 ^ exponent`; `none` beyond the largest number. Exponents
far outside the range are answered without computing the power. -/
def ofDecimal (digits : Nat) (exponent : Int) : Option Binary64 :=
  if digits = 0 then some (zero false)
  else if 310 < exponent + decimalLength digits then none
  else if exponent + decimalLength digits < -330 then some (zero false)
  else if 0 ≤ exponent then roundRatio (digits * Nat.pow 10 exponent.toNat) 1
  else roundRatio digits (Nat.pow 10 (-exponent).toNat)

example : ofDecimal 1 (-1) = some ⟨false, 7205759403792794, -56⟩ := by decide +kernel
example : ofDecimal 5 (-324) = some ⟨false, 1, -1074⟩ := by decide +kernel
example : ofDecimal 17976931348623159 292 = none := by decide +kernel

end Binary64

end CheckScript
