/-!
# Sizes of machines

How large a machine is that reads a text byte by byte. Its states all take up the same, and those
with more than one way on take up more with every way.
-/

namespace CheckScript.Pattern

/-- How large a machine is: how many states it has, and how many bytes their ways on take up. -/
structure Size where
  states : Nat
  ways : Nat
  deriving DecidableEq, Repr

namespace Size

instance : Add Size := ⟨fun a b => ⟨a.states + b.states, a.ways + b.ways⟩⟩

/-- The size of nothing. -/
def zero : Size := ⟨0, 0⟩

/-- States with one way on each. -/
def plain (count : Nat) : Size := ⟨count, 0⟩

/-- A state that goes on in some ways without reading a byte. -/
def fork (count : Nat) : Size := ⟨1, 4 * count⟩

/-- A state that tells by ranges of bytes how to go on. -/
def table (count : Nat) : Size := ⟨1, 8 * count⟩

/-- The sum of some sizes. -/
def sum (sizes : List Size) : Size := sizes.foldr (· + ·) zero

/-- The bytes that a machine takes up, 32 of them for a state. -/
def bytes (size : Size) : Nat := 32 * size.states + size.ways

/-- What a machine may take up: ten mebibytes. -/
def maxBytes : Nat := 10 * Nat.pow 2 20

/-- What is put together takes up as much as its parts. -/
theorem bytes_add (a b : Size) : (a + b).bytes = a.bytes + b.bytes := by
  simp only [bytes, HAdd.hAdd, Add.add]
  simp only [Nat.add_eq]
  omega

end Size

end CheckScript.Pattern
