import CheckScript.ValueToml

/-!
# Reading tables with known keys

Some documents have keys of a known meaning, each with a value of a known type. A key may be absent;
a value of another type is an error, and so is a text that is not TOML at all. Other keys do not
matter.
-/

namespace CheckScript.Toml

/-- Why a document does not say what it should. -/
inductive DecodeError where
  | malformed
  | unexpected (key : String)
  | missing (key : String)
  deriving DecidableEq, Repr

/-- What is said about such a document. -/
def DecodeError.message : DecodeError → String
  | .malformed => "TOML parse error: malformed document"
  | .unexpected key => "TOML parse error: unexpected type of value for '" ++ key ++ "'"
  | .missing key => "TOML parse error: missing key '" ++ key ++ "'"

/-- The entries of a document. -/
def readDocument (text : String) : Except DecodeError (List (String × Toml)) :=
  match ofText? text with
  | some entries => .ok entries
  | none => .error .malformed

/-! ## Values of one type -/

/-- A text. -/
def asText? : Toml → Option String
  | .text s => some s
  | _ => none

/-- A truth value. -/
def asBoolean? : Toml → Option Bool
  | .boolean b => some b
  | _ => none

/-- The items of an array. -/
def asArray? : Toml → Option (List Toml)
  | .array items => some items
  | _ => none

/-- The entries of a table; an array stands for the table with the known keys in their order. -/
def asEntries? (keys : List String) : Toml → Option (List (String × Toml))
  | .table entries => some entries
  | .array items => some (keys.zip items)
  | _ => none

/-! ## Values of keys -/

/-- The value of a key. -/
def find? (entries : List (String × Toml)) (key : String) : Option Toml :=
  (entries.find? (·.1 = key)).map (·.2)

/-- The value of a key, read as one of a type, unless the key is absent. -/
def optional (read : Toml → Option α) (key : String) : Option Toml → Except DecodeError (Option α)
  | none => .ok none
  | some value =>
    match read value with
    | some x => .ok (some x)
    | none => .error (.unexpected key)

/-- The value of a key, read as one of a type. -/
def required (read : Toml → Option α) (key : String) : Option Toml → Except DecodeError α
  | none => .error (.missing key)
  | some value =>
    match read value with
    | some x => .ok x
    | none => .error (.unexpected key)

end CheckScript.Toml
