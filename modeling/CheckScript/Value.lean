import CheckScript.Dict

/-!
# Values

What flows between the steps of a script: nothing, a text, a list, or a record of named values. A
script knows no numbers; data that enters it is turned into texts.

The fields of a record are in key order (`Value.Canonical`); every value that a script reads or
makes is so, and then records with the same bindings are equal.
-/

namespace CheckScript

/-- A value of a script. -/
inductive Value where
  | unit
  | text (s : String)
  | list (items : List Value)
  | record (fields : List (String × Value))
  deriving Inhabited

namespace Value

/-- The four kinds of value, as error messages name them. -/
inductive Kind where
  | unit
  | text
  | list
  | record
  deriving DecidableEq, Repr

/-- The name of a kind in messages. -/
def Kind.name : Kind → String
  | .unit => "Unit"
  | .text => "String"
  | .list => "List"
  | .record => "Map"

/-- The kind of a value. -/
def kind : Value → Kind
  | .unit => .unit
  | .text _ => .text
  | .list _ => .list
  | .record _ => .record

/-- The text of a value that is one. -/
def asText : Value → Option String
  | .text s => some s
  | _ => none

/-- The record with the bindings of a dictionary. -/
def ofDict (dict : Dict Value) : Value := .record dict.entries

/-! ## Canonical values -/

mutual

/-- The fields of every record in the value are in strictly increasing key order. -/
def Canonical : Value → Prop
  | .unit => True
  | .text _ => True
  | .list items => CanonicalItems items
  | .record fields => Ascending fields ∧ CanonicalFields fields

/-- All items are canonical. -/
def CanonicalItems : List Value → Prop
  | [] => True
  | item :: items => item.Canonical ∧ CanonicalItems items

/-- The values of all fields are canonical. -/
def CanonicalFields : List (String × Value) → Prop
  | [] => True
  | (_, value) :: fields => value.Canonical ∧ CanonicalFields fields

end

/-! ## Equality -/

mutual

/-- Whether two values are the same. -/
def beq : Value → Value → Bool
  | .unit, .unit => true
  | .text s, .text t => s == t
  | .list xs, .list ys => beqItems xs ys
  | .record xs, .record ys => beqFields xs ys
  | _, _ => false

/-- Whether two lists hold the same items. -/
def beqItems : List Value → List Value → Bool
  | [], [] => true
  | x :: xs, y :: ys => beq x y && beqItems xs ys
  | _, _ => false

/-- Whether two field lists bind the same keys to the same values in the same order. -/
def beqFields : List (String × Value) → List (String × Value) → Bool
  | [], [] => true
  | (k, x) :: xs, (l, y) :: ys => k == l && beq x y && beqFields xs ys
  | _, _ => false

end

instance : BEq Value := ⟨beq⟩

mutual

theorem eq_of_beq : ∀ {x y : Value}, beq x y = true → x = y
  | .unit, .unit, _ => rfl
  | .text s, .text t, h => by simp only [beq, beq_iff_eq] at h; rw [h]
  | .list xs, .list ys, h => by simp only [beq] at h; rw [eq_of_beqItems h]
  | .record xs, .record ys, h => by simp only [beq] at h; rw [eq_of_beqFields h]
  | .unit, .text _, h | .unit, .list _, h | .unit, .record _, h => by simp [beq] at h
  | .text _, .unit, h | .text _, .list _, h | .text _, .record _, h => by simp [beq] at h
  | .list _, .unit, h | .list _, .text _, h | .list _, .record _, h => by simp [beq] at h
  | .record _, .unit, h | .record _, .text _, h | .record _, .list _, h => by simp [beq] at h

theorem eq_of_beqItems : ∀ {xs ys : List Value}, beqItems xs ys = true → xs = ys
  | [], [], _ => rfl
  | x :: xs, y :: ys, h => by
    simp only [beqItems, Bool.and_eq_true] at h
    rw [eq_of_beq h.1, eq_of_beqItems h.2]
  | [], _ :: _, h | _ :: _, [], h => by simp [beqItems] at h

theorem eq_of_beqFields : ∀ {xs ys : List (String × Value)}, beqFields xs ys = true → xs = ys
  | [], [], _ => rfl
  | (k, x) :: xs, (l, y) :: ys, h => by
    simp only [beqFields, Bool.and_eq_true, beq_iff_eq] at h
    rw [h.1.1, eq_of_beq h.1.2, eq_of_beqFields h.2]
  | [], _ :: _, h | _ :: _, [], h => by simp [beqFields] at h

end

mutual

theorem beq_refl : ∀ x : Value, beq x x = true
  | .unit => by simp [beq]
  | .text s => by simp [beq]
  | .list xs => by simp [beq, beqItems_refl xs]
  | .record xs => by simp [beq, beqFields_refl xs]

theorem beqItems_refl : ∀ xs : List Value, beqItems xs xs = true
  | [] => by simp [beqItems]
  | x :: xs => by simp [beqItems, beq_refl x, beqItems_refl xs]

theorem beqFields_refl : ∀ xs : List (String × Value), beqFields xs xs = true
  | [] => by simp [beqFields]
  | (k, x) :: xs => by simp [beqFields, beq_refl x, beqFields_refl xs]

end

instance : LawfulBEq Value where
  eq_of_beq := eq_of_beq
  rfl := beq_refl _

instance : DecidableEq Value := fun x y =>
  if h : x == y then isTrue (eq_of_beq h)
  else isFalse fun heq => h (heq ▸ beq_refl x)

end Value

end CheckScript
