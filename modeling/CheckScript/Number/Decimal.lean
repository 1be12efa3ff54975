import CheckScript.Number.Binary64

/-!
# Decimal texts of doubles

## The shortest decimal

`shortest` gives the decimal with the fewest digits that reads back as the number, and of several
such the nearest. A decimal reads back if it lies in the interval of reals that round to the number;
the ends belong to the interval exactly if the mantissa is even. On the grid of the multiples of
`10 ^ k` only the two neighbours of the number can be nearest, so it is enough to try them for one
`k` after the other, from coarse to fine.

## Notations

`DecimalStyle` says which exponents are written positionally; `render` writes a number in a style.
-/

namespace CheckScript

/-- A positive decimal `digits * 10 ^ exponent`. -/
structure Decimal where
  digits : Nat
  exponent : Int
  deriving DecidableEq, Repr

namespace Decimal

/-- `a * 2 ^ u` and `d * 10 ^ k` on a common scale: the factors of `a` and of `d`. -/
def commonScale (u k : Int) : Nat × Nat :=
  (Nat.pow 2 u.toNat * Nat.pow 10 (-k).toNat, Nat.pow 10 k.toNat * Nat.pow 2 (-u).toNat)

/-- The multiple of `10 ^ k` nearest to the number that reads back as it, if there is one. -/
def onGrid? (x : Binary64) (k : Int) : Option Nat :=
  let u := x.exponent - 2
  let (fa, fd) := commonScale u k
  let value := 4 * x.mantissa * fa
  let atPower := x.mantissa = Nat.pow 2 52 && Binary64.minExponent < x.exponent
  let low := (4 * x.mantissa - (if atPower then 1 else 2)) * fa
  let high := (4 * x.mantissa + 2) * fa
  let reads (d : Nat) : Bool :=
    if x.mantissa % 2 = 0 then low ≤ d * fd && d * fd ≤ high
    else low < d * fd && d * fd < high
  let below := value / fd
  let above := below + 1
  match reads below, reads above with
  | true, true =>
    let toBelow := value - below * fd
    let toAbove := above * fd - value
    if toBelow < toAbove || (toBelow = toAbove && below % 2 = 0) then some below else some above
  | true, false => some below
  | false, true => some above
  | false, false => none

/-- Tries the grids of `10 ^ k`, `10 ^ (k - 1)`, … -/
def firstOnGrid (x : Binary64) : Nat → Int → Decimal
  | 0, k =>
    ⟨4 * x.mantissa * (commonScale (x.exponent - 2) k).1 / (commonScale (x.exponent - 2) k).2, k⟩
  | steps + 1, k =>
    match onGrid? x k with
    | some d => ⟨d, k⟩
    | none => firstOnGrid x steps (k - 1)

/-- Takes the zeros off the end of the digits. -/
def dropZeros (d : Decimal) : Decimal :=
  if h : d.digits ≠ 0 ∧ d.digits % 10 = 0 then dropZeros ⟨d.digits / 10, d.exponent + 1⟩ else d
termination_by d.digits
decreasing_by exact Nat.div_lt_self (Nat.pos_of_ne_zero h.1) (by omega)

/-- The shortest decimal that reads back as the magnitude of `x`, which is not zero. The search
starts at a power of ten above the number; 17 digits always suffice. -/
def shortest (x : Binary64) : Decimal :=
  dropZeros (firstOnGrid x 22 (((x.mantissa.log2 : Int) + x.exponent + 1) * 30103 / 100000 + 2))

example : shortest ⟨false, 7205759403792794, -56⟩ = ⟨1, -1⟩ := by decide +kernel
example : shortest ⟨false, 1, -1074⟩ = ⟨5, -324⟩ := by decide +kernel

end Decimal

/-! ## Writing -/

/-- How a format writes its decimals: positionally if the exponent of the first digit is in the
range, or always if there is none; otherwise with an exponent. -/
structure DecimalStyle where
  positionalRange : Option (Int × Int)

namespace Decimal

/-- The decimal digits of a natural number. -/
def digitChars (n : Nat) : List Char := Nat.toDigits 10 n

/-- The exponent of the first digit. -/
def leading (d : Decimal) : Int := d.exponent + (digitChars d.digits).length - 1

/-- The digits without an exponent, with at least one digit on either side of the point. -/
def positional (d : Decimal) : List Char :=
  let digits := digitChars d.digits
  if 0 ≤ d.exponent then digits ++ List.replicate d.exponent.toNat '0' ++ ['.', '0']
  else if 0 ≤ d.leading then
    digits.take (d.leading.toNat + 1) ++ '.' :: digits.drop (d.leading.toNat + 1)
  else '0' :: '.' :: List.replicate (-d.leading - 1).toNat '0' ++ digits

/-- One digit before the point, the rest after it, and the exponent with its sign. -/
def scientific (d : Decimal) : List Char :=
  let mark := if d.leading < 0 then '-' else '+'
  let exponent := 'e' :: mark :: digitChars d.leading.natAbs
  match digitChars d.digits with
  | [] => []
  | [c] => c :: exponent
  | c :: cs => c :: '.' :: cs ++ exponent

/-- A finite number in a style: its shortest decimal, and a minus for negative numbers and for the
negative zero. -/
def render (style : DecimalStyle) (x : Binary64) : List Char :=
  let body :=
    if x.isZero then ['0', '.', '0']
    else
      let d := shortest x
      match style.positionalRange with
      | none => positional d
      | some (low, high) =>
        if low ≤ d.leading ∧ d.leading ≤ high then positional d else scientific d
  if x.negative then '-' :: body else body

end Decimal

end CheckScript
