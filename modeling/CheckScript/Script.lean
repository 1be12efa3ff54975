import CheckScript.Compile
import CheckScript.ValueJson

/-!
# Running scripts

From a source to a result: the source is read, compiled with the commands of a registry, and run on
an input. Each of the three can fail (`ScriptError`).
-/

namespace CheckScript

/-- Why a script has no result. -/
inductive ScriptError where
  | parse (error : ParseError)
  | compile (errors : List CompileError)
  | runtime (error : RuntimeError)

namespace ScriptError

/-- What is said about a script without a result. -/
def message : ScriptError → String
  | .parse error => error.message
  | .compile errors => "; ".intercalate (errors.map CompileError.message)
  | .runtime error => error.message

/-- The error of a file as it is shown; a failed run has no place in the source. -/
def diagnostics (error : ScriptError) (file : Nat) : List Diagnostic :=
  match error with
  | .parse error => [error.diagnostic file]
  | .compile errors => errors.map (·.diagnostic file)
  | .runtime _ => []

end ScriptError

/-- Compiles a source with the commands of a registry. -/
def compile (source : String) (registry : Registry) : Except ScriptError Step := do
  let script ← (parse source 0).mapError .parse
  (compileBlock registry script.root).mapError .compile

/-- Compiles a source and runs it once. -/
def runScript (source : String) (registry : Registry) (input : Value) :
    Except ScriptError Value := do
  let step ← compile source registry
  (step.result input).mapError .runtime

end CheckScript
