import CheckScript.Command.Arguments
import CheckScript.Json.Quoted
import CheckScript.Source.Diagnostic

/-!
# Compiling scripts

The tree of a script becomes one step: a block is a pipe of its nodes, a line is the step that its
command makes, and a sub-block is its pipe run for each element. Comments are left out.

Every line that has no step is an error, and a script with errors has no step. The errors of a
script stand in the order of its lines, and all of them are found.
-/

namespace CheckScript

/-- Why a line has no step. -/
inductive CompileError where
  /-- The first word of the line is not among the commands. -/
  | unknownCommand (line : Line) (available : List String)
  /-- The command refuses the argument. -/
  | refused (line : Line) (cause : CommandError)
  deriving DecidableEq, Repr

namespace CompileError

/-- What is said about a line without a step. -/
def message : CompileError → String
  | .unknownCommand line _ => "unknown command '" ++ line.command ++ "'"
  | .refused _ cause => cause.message

/-- The place of the error: the unknown command, or the line whose argument is refused. -/
def span : CompileError → Span
  | .unknownCommand line _ => line.commandSpan
  | .refused line _ => line.span

/-- What might help: the commands there are. -/
def notes : CompileError → List String
  | .unknownCommand _ available => ["available commands: " ++ ", ".intercalate available]
  | .refused _ _ => []

/-- The error of a file as it is shown. -/
def diagnostic (error : CompileError) (file : Nat) : Diagnostic where
  message := error.message
  labels := [⟨.primary, file, error.span, ""⟩]
  notes := error.notes

end CompileError

/-! ## Arguments -/

/-- Decodes an argument as the inside of a quoted JSON string; if it is none, it stays as it is. -/
def unescape (written : String) : String :=
  match Json.unescape? written.toList with
  | some text => String.ofList text
  | none => written

/-- The argument of a line as its command gets it. -/
def ArgumentForm.decode : ArgumentForm → String → String
  | .escaped, written => unescape written
  | .raw, written => written

/-! ## Lines and blocks -/

/-- The step of a line that is not a comment. -/
def compileLine (registry : Registry) (line : Line) : Except CompileError Step :=
  match registry.get? line.command with
  | none => .error (.unknownCommand line registry.names)
  | some command =>
    (command.build (line.argument.map command.form.decode)).mapError (.refused line)

/-- Steps found so far, and the errors of the lines that have none. -/
structure Compiled where
  steps : List Step
  errors : List CompileError

namespace Compiled

/-- A step in front. -/
def consStep (step : Step) (c : Compiled) : Compiled := { c with steps := step :: c.steps }

/-- Errors in front. -/
def addErrors (errors : List CompileError) (c : Compiled) : Compiled :=
  { c with errors := errors ++ c.errors }

end Compiled

mutual

/-- The step or the errors of one node, in front of those of the nodes after it. -/
def compileNode (registry : Registry) (after : Compiled) : Node → Compiled
  | .line l =>
    if l.isComment then after
    else
      match compileLine registry l with
      | .ok step => after.consStep step
      | .error e => after.addErrors [e]
  | .block nodes =>
    match compileNodes registry nodes with
    | ⟨steps, []⟩ => after.consStep (.forEach (.pipe steps))
    | ⟨_, errors⟩ => after.addErrors errors

/-- The steps and the errors of the nodes of a block. -/
def compileNodes (registry : Registry) : List Node → Compiled
  | [] => ⟨[], []⟩
  | node :: nodes => compileNode registry (compileNodes registry nodes) node

end

/-- The step of a block, or the errors of its lines. -/
def compileBlock (registry : Registry) (block : Block) : Except (List CompileError) Step :=
  match compileNodes registry block with
  | ⟨steps, []⟩ => .ok (.pipe steps)
  | ⟨_, errors⟩ => .error errors

end CheckScript
