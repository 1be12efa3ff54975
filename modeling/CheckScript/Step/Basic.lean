import CheckScript.Context
import CheckScript.Step.Join

/-!
# Steps

A step takes the context of the block it runs in and the output of the step before it, and answers
with a value or fails; either way it leaves the context in some state.

A step is a leaf, which acts on its own, a pipe of steps, or a step to be run for each element of a
list.

## Running

* A pipe runs its steps one after the other in a fresh context, each on the output of the one
  before. If its context is not empty at the end, the context is its result; otherwise the last
  output is. The first failure ends it.
* A step for each element wants a list. It runs the step on every element, each time in a fresh
  context, and answers with the list of the results.

Neither looks at the context it is called with, nor changes it.
-/

namespace CheckScript

/-- What a call of a step leaves: its result, and the context in the state it left it in. -/
structure Outcome where
  result : Except RuntimeError Value
  context : Context

/-- What a leaf does: with a context and an input, to an outcome. -/
abbrev Action := Context → Value → Outcome

/-- A unit of work in a script. -/
inductive Step where
  | leaf (act : Action)
  | pipe (steps : List Step)
  | forEach (body : Step)

namespace Step

/-- A leaf that never fails and leaves its context alone. -/
def pure (f : Value → Value) : Step := .leaf fun context input => ⟨.ok (f input), context⟩

/-- A leaf that may fail and leaves its context alone. -/
def attempt (f : Value → Except RuntimeError Value) : Step :=
  .leaf fun context input => ⟨f input, context⟩

/-- The result of a pipe whose last output is `value`: its context if that holds anything. -/
def pipeResult (context : Context) (value : Value) : Value :=
  if context.isEmpty then value else context.toValue

mutual

/-- Runs a step in a context on an input. -/
def run : Step → Action
  | .leaf act, context, input => act context input
  | .pipe steps, context, input => ⟨runPipe steps Context.fresh input, context⟩
  | .forEach body, context, .list items =>
    let results := items.map fun item => (run body Context.fresh item).result
    ⟨(joinBranches items.length (inOrder results)).map .list, context⟩
  | .forEach _, context, input => ⟨.error (.expectedList input.kind), context⟩

/-- Runs the steps of a pipe in its context, from the output of the step before them. -/
def runPipe : List Step → Context → Value → Except RuntimeError Value
  | [], context, value => .ok (pipeResult context value)
  | step :: steps, context, value =>
    match run step context value with
    | ⟨.ok value, context⟩ => runPipe steps context value
    | ⟨.error e, _⟩ => .error e

end

/-- The result of a step on an input, called as the whole of a script. -/
def result (step : Step) (input : Value) : Except RuntimeError Value :=
  (step.run Context.fresh input).result

end Step

end CheckScript
