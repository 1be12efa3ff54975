import CheckScript.Command.Arguments

/-!
# Commands on the context

* `save key` puts its input aside under a name and passes it on.
* `load key` answers with what was put aside under a name, or with the unit value.
-/

namespace CheckScript.Command

/-- `save key`. -/
def save : Factory := fun argument => do
  let key ← requireArgument "save" argument
  return .leaf fun context input => ⟨.ok input, context.insert key input⟩

/-- `load key`. -/
def load : Factory := fun argument => do
  let key ← requireArgument "load" argument
  return .leaf fun context _ => ⟨.ok ((context.get? key).getD .unit), context⟩

end CheckScript.Command
