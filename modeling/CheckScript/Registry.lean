import CheckScript.Step.Basic
import CheckScript.Text.Quoted

/-!
# Commands and registries

A command makes a step from the argument of its line, or refuses the argument. A registry binds
names to commands; a later registration of a name replaces an earlier one.

The argument reaches the command as it stands, or decoded as the inside of a quoted JSON string
(`ArgumentForm`).
-/

namespace CheckScript

/-- Why a command refuses the argument of its line. -/
inductive CommandError where
  | missingArgument (name : String)
  | invalidArgument (name complaint : String)
  deriving DecidableEq, Repr

/-- What is said about a refused argument. -/
def CommandError.message : CommandError → String
  | .missingArgument name => "'" ++ name ++ "' requires an argument"
  | .invalidArgument name complaint => "invalid argument for '" ++ name ++ "': " ++ complaint

/-- How the argument of a line reaches its command. -/
inductive ArgumentForm where
  /-- Decoded as the inside of a quoted JSON string; as it stands if it is none. -/
  | escaped
  /-- As it stands. -/
  | raw
  deriving DecidableEq, Repr

/-- Makes a step from an argument, which a line may lack. -/
abbrev Factory := Option String → Except CommandError Step

/-- A command: how its argument is decoded, and the step it makes of it. -/
structure Command where
  form : ArgumentForm
  build : Factory

/-- The commands that a script may use, by name. -/
abbrev Registry := Dict Command

namespace Registry

/-- The registry without commands. -/
abbrev empty : Registry := Dict.empty

/-- Registers a command, in place of an earlier one of that name. -/
def register (registry : Registry) (name : String) (form : ArgumentForm) (build : Factory) :
    Registry :=
  registry.insert name ⟨form, build⟩

/-- The registered names in increasing order. -/
def names (registry : Registry) : List String := registry.keys

/-- The names, one a line. -/
def listing (registry : Registry) : String :=
  registry.names.foldr (fun name rest => name ++ "\n" ++ rest) ""

/-- The registry as it is shown when a program prints its own state. -/
def shown (registry : Registry) : String :=
  let names := registry.names.map fun name => String.ofList (Text.showQuoted name)
  "CommandRegistry \x7b commands: [" ++ ", ".intercalate names ++ "] \x7d"

end Registry

end CheckScript
