import CheckScript.Number.Decimal
import CheckScript.Toml.Moment

/-!
# TOML values

The values that a TOML document holds. A document itself is a table. The entries of a table stand in
the order of the document; no key is there twice.
-/

namespace CheckScript

namespace Toml

/-- A floating-point number. -/
inductive Float where
  | finite (x : Binary64)
  | infinite (negative : Bool)
  | nan
  deriving DecidableEq, Repr

/-- Numbers are written without an exponent. -/
def floatStyle : DecimalStyle := ⟨none⟩

/-- The text of a floating-point number. -/
def Float.render : Float → List Char
  | .finite x => Decimal.render floatStyle x
  | .infinite false => ['i', 'n', 'f']
  | .infinite true => ['-', 'i', 'n', 'f']
  | .nan => ['n', 'a', 'n']

end Toml

/-- A TOML value. -/
inductive Toml where
  | text (s : String)
  | integer (n : Int)
  | float (x : Toml.Float)
  | boolean (b : Bool)
  | moment (m : Toml.Moment)
  | array (items : List Toml)
  | table (entries : List (String × Toml))

end CheckScript
