import CheckScript.Registry

/-!
# What commands ask of their arguments and inputs
-/

namespace CheckScript.Command

/-- The argument, which the command cannot do without. -/
def requireArgument (name : String) : Option String → Except CommandError String
  | some argument => .ok argument
  | none => .error (.missingArgument name)

/-- The input as a text. -/
def expectText (name : String) : Value → Except RuntimeError String
  | .text s => .ok s
  | other => .error (.wrongKind name .text other.kind)

/-- The input as a list. -/
def expectList (name : String) : Value → Except RuntimeError (List Value)
  | .list items => .ok items
  | other => .error (.wrongKind name .list other.kind)

end CheckScript.Command
