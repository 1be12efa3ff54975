import CheckScript.Value

/-!
# Contexts

A context holds the values that the steps of one block have put aside, under their names. It is a
dictionary of values; as a value it is the record of its bindings. A change of it answers the value
that was there before.
-/

namespace CheckScript

/-- The named values that the steps of a block share. -/
abbrev Context := Dict Value

namespace Context

/-- The context of a block before its first step. -/
abbrev fresh : Context := Dict.empty

/-- A change of one binding. -/
inductive Change where
  | insert (key : String) (value : Value)
  | remove (key : String)

/-- The key whose binding is changed. -/
def Change.key : Change → String
  | .insert key _ => key
  | .remove key => key

/-- Makes a change, and answers the value that it replaces or removes. -/
def change (context : Context) : Change → Option Value × Context
  | .insert key value => context.exchange key value
  | .remove key => context.withdraw key

/-- The context after some changes of a fresh one. -/
def after (changes : List Change) : Context :=
  changes.foldl (fun context change => (context.change change).2) fresh

/-- The context as a record. -/
def toValue (context : Context) : Value := Value.ofDict context

end Context

end CheckScript
