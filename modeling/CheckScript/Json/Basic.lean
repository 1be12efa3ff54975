import CheckScript.Number.Decimal

/-!
# JSON trees

A JSON text as a tree. Members of an object stand in the order of the text, repeated keys included;
what a repeated key means is for the reader of the tree to say.
-/

namespace CheckScript

namespace Json

/-- A JSON number: an integer of at most 64 bits, or a double. -/
inductive Number where
  | int (n : Int)
  | float (x : Binary64)
  deriving DecidableEq, Repr

/-- Doubles are written positionally from `1e-5` up to below `1e16`. -/
def numberStyle : DecimalStyle := ⟨some (-5, 15)⟩

/-- The text of a number. -/
def Number.render : Number → List Char
  | .int n => (toString n).toList
  | .float x => Decimal.render numberStyle x

example : Number.render (.float ⟨false, 7205759403792794, -56⟩) = ['0', '.', '1'] := by
  decide +kernel

example : Number.render (.float ⟨true, 0, -1074⟩) = ['-', '0', '.', '0'] := by decide +kernel

example : Number.render (.float ⟨false, 1, -1074⟩) = ['5', 'e', '-', '3', '2', '4'] := by
  decide +kernel

end Json

/-- A JSON tree. -/
inductive Json where
  | null
  | bool (b : Bool)
  | number (n : Json.Number)
  | text (s : String)
  | array (items : List Json)
  | object (members : List (String × Json))
  deriving Inhabited

end CheckScript
