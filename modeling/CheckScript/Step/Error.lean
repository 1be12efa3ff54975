import CheckScript.Value

/-!
# Why a run fails

`RuntimeError` lists the causes for which a step can fail; `RuntimeError.message` words them.
-/

namespace CheckScript

/-- Why a step failed. -/
inductive RuntimeError where
  /-- A command was given a value of a kind it cannot work on. -/
  | wrongKind (command : String) (expected got : Value.Kind)
  /-- A block of deeper lines was given something other than a list. -/
  | expectedList (got : Value.Kind)
  /-- A command could not do its work on the value it was given. -/
  | failed (command complaint : String)
  /-- A branch of a block that runs for each element ended without a result. -/
  | branchLost (reason : String)
  /-- A step of a host program failed for a reason of its own. -/
  | custom (words : String)
  deriving DecidableEq, Repr

namespace RuntimeError

/-- What is said about a failure. -/
def message : RuntimeError → String
  | .wrongKind command expected got =>
    "type error in '" ++ command ++ "': expected " ++ expected.name ++ ", got " ++ got.name
  | .expectedList got => "expected list input to map, got " ++ got.name
  | .failed command complaint => command ++ ": " ++ complaint
  | .branchLost reason => "mapped branch did not complete: " ++ reason
  | .custom words => words

end RuntimeError

end CheckScript
