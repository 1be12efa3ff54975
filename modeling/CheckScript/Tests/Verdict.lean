import CheckScript.Script
import CheckScript.Tests.Header
import CheckScript.Text.Split

/-!
# Verdicts

A test passes, or fails for one of the reasons of `TestFailure`.

* If the script is expected not to compile, nothing else matters.
* Otherwise it has to compile. If a runtime error is expected, the run has to fail, with a message
  that contains the expected words.
* Otherwise the run has to succeed. If an output is expected, its result has to be that one.
-/

namespace CheckScript

/-- Why a test failed. -/
inductive TestFailure where
  /-- The script compiles, but should not. -/
  | compiled
  /-- The script does not compile, but should. -/
  | compileError (error : ScriptError)
  /-- The run failed with another message than it should. -/
  | otherError (expected : String) (error : RuntimeError)
  /-- The run succeeded, but should have failed. -/
  | succeeded (expected : String)
  /-- The run failed, but should have succeeded. -/
  | runtimeError (error : RuntimeError)
  /-- The run has another result than it should. -/
  | mismatch (expected actual : Value)

/-- What is said about a failed test. -/
def TestFailure.message : TestFailure → String
  | .compiled => "expected compile error, but compilation succeeded"
  | .compileError error => "unexpected compile error: " ++ error.message
  | .otherError expected error =>
    "expected error containing \"" ++ expected ++ "\", got: " ++ error.message
  | .succeeded expected =>
    "expected error containing \"" ++ expected ++ "\", but execution succeeded"
  | .runtimeError error => "unexpected runtime error: " ++ error.message
  | .mismatch expected actual =>
    "output mismatch\n  expected: " ++ expected.display ++ "\n  actual:   " ++ actual.display

namespace TestHeader

/-- Whether the message of an error contains the expected words. -/
def mentions (error : RuntimeError) (words : String) : Bool :=
  Text.occursIn words.toList error.message.toList

/-- What is wrong with the result of a script that compiled and should have. -/
def judge (header : TestHeader) : Except RuntimeError Value → Option TestFailure
  | .error error =>
    match header.error with
    | none => some (.runtimeError error)
    | some words => if mentions error words then none else some (.otherError words error)
  | .ok actual =>
    match header.error, header.output with
    | some words, _ => some (.succeeded words)
    | none, none => none
    | none, some expected =>
      let expected := Value.ofToml expected
      if actual = expected then none else some (.mismatch expected actual)

/-- What is wrong with a script, measured by the header of its test; nothing if the test passes. -/
def verdict (header : TestHeader) (source : String) (registry : Registry) : Option TestFailure :=
  match compile source registry, header.compileError with
  | .ok _, true => some .compiled
  | .error _, true => none
  | .error error, false => some (.compileError error)
  | .ok step, false => header.judge (step.result header.inputValue)

end TestHeader

end CheckScript
