import CheckScript.Command.Builtin
import CheckScript.Proofs.Script.Compiling
import CheckScript.Tests.Verdict

/-!
# When a test passes

`TestHeader.verdict` compiles the script of a test and runs the step itself, since it has to tell
the errors of the two apart. What it says depends only on the outcome of running the script in one
go: a test passes iff this outcome is what its header expects (`TestHeader.MetBy`).

## Main statement

* `verdict_of_outcome`: this, and what is said about a test that expects nothing and fails.
-/

namespace CheckScript

variable {header : TestHeader} {source : String} {registry : Registry}

/-! ## Running in one go -/

/-- Compiling never fails as a run does. -/
theorem compile_ne_runtime (e : RuntimeError) : compile source registry ≠ .error (.runtime e) := by
  intro h
  by_cases hnone : NoneShallower (sourceLines source)
  · rw [compile_of_noneShallower hnone] at h
    split at h <;> cases h
  · obtain ⟨p, hp⟩ := compile_of_not_noneShallower registry hnone
    rw [hp] at h
    cases h

theorem runScript_of_compile_eq_ok {step : Step} (h : compile source registry = .ok step)
    (input : Value) :
    runScript source registry input = (step.result input).mapError .runtime := by
  unfold runScript
  rw [h]
  rfl

theorem runScript_of_compile_eq_error {e : ScriptError} (h : compile source registry = .error e)
    (input : Value) : runScript source registry input = .error e := by
  unfold runScript
  rw [h]
  rfl

/-! ## Expectations -/

/-- The outcome of a script is the one that the header of its test expects. -/
inductive TestHeader.MetBy (header : TestHeader) : Except ScriptError Value → Prop
  /-- The script is expected not to compile, and has no tree. -/
  | parseError {e : ParseError} : header.compileError = true → MetBy header (.error (.parse e))
  /-- The script is expected not to compile, and some of its lines have errors. -/
  | compileError {es : List CompileError} :
    header.compileError = true → MetBy header (.error (.compile es))
  /-- The run is expected to fail, and what is said about it has the expected words in it. -/
  | runtimeError {words : String} {e : RuntimeError} :
    header.compileError = false → header.error = some words →
    words.toList <:+: (ScriptError.runtime e).message.toList →
    MetBy header (.error (.runtime e))
  /-- The result is the expected one. -/
  | output {toml : Toml} :
    header.compileError = false → header.error = none → header.output = some toml →
    MetBy header (.ok (Value.ofToml toml))
  /-- Nothing is expected but a result. -/
  | anything {value : Value} :
    header.compileError = false → header.error = none → header.output = none →
    MetBy header (.ok value)

namespace TestHeader

theorem metBy_parse_iff {e : ParseError} :
    header.MetBy (.error (.parse e)) ↔ header.compileError = true := by
  constructor
  · rintro ⟨h⟩
    exact h
  · exact .parseError

theorem metBy_compile_iff {es : List CompileError} :
    header.MetBy (.error (.compile es)) ↔ header.compileError = true := by
  constructor
  · rintro (_ | h)
    exact h
  · exact .compileError

theorem metBy_runtime_iff {e : RuntimeError} :
    header.MetBy (.error (.runtime e))
      ↔ header.compileError = false
        ∧ ∃ words, header.error = some words ∧ words.toList <:+: e.message.toList := by
  constructor
  · rintro (_ | _ | ⟨hcompile, hwords, hinfix⟩)
    exact ⟨hcompile, _, hwords, hinfix⟩
  · rintro ⟨hcompile, words, hwords, hinfix⟩
    exact .runtimeError hcompile hwords hinfix

theorem metBy_ok_iff {value : Value} :
    header.MetBy (.ok value)
      ↔ header.compileError = false ∧ header.error = none
        ∧ ∀ toml, header.output = some toml → value = Value.ofToml toml := by
  constructor
  · intro h
    cases h with
    | output hcompile herror houtput =>
      refine ⟨hcompile, herror, fun other hother => ?_⟩
      rw [houtput] at hother
      cases hother
      rfl
    | anything hcompile herror houtput => exact ⟨hcompile, herror, by simp [houtput]⟩
  · rintro ⟨hcompile, herror, hvalue⟩
    cases houtput : header.output with
    | none => exact .anything hcompile herror houtput
    | some toml =>
      rw [hvalue toml houtput]
      exact .output hcompile herror houtput

/-! ## Passing -/

theorem judge_error_eq_none_iff {e : RuntimeError} :
    header.judge (.error e) = none
      ↔ ∃ words, header.error = some words ∧ words.toList <:+: e.message.toList := by
  unfold judge
  cases header.error with
  | none => simp
  | some words =>
    simp only [mentions, Option.some.injEq, exists_eq_left', ← Text.occursIn_iff]
    by_cases h : Text.occursIn words.toList e.message.toList = true <;> simp [h]

theorem judge_ok_eq_none_iff {value : Value} :
    header.judge (.ok value) = none
      ↔ header.error = none ∧ ∀ toml, header.output = some toml → value = Value.ofToml toml := by
  unfold judge
  cases header.error with
  | some words => simp
  | none =>
    cases header.output with
    | none => simp
    | some toml => by_cases h : value = Value.ofToml toml <;> simp [h]

/-- **A test passes iff the outcome of its script is the expected one.** -/
theorem verdict_eq_none_iff :
    header.verdict source registry = none
      ↔ header.MetBy (runScript source registry header.inputValue) := by
  unfold verdict
  cases hcompile : compile source registry with
  | ok step =>
    rw [runScript_of_compile_eq_ok hcompile]
    -- a header that expects a compile error is not met by a run, whatever came of it
    cases hresult : step.result header.inputValue with
    | ok value =>
      show _ ↔ header.MetBy (.ok value)
      rw [metBy_ok_iff, ← judge_ok_eq_none_iff]
      cases header.compileError <;> simp [hresult]
    | error e =>
      show _ ↔ header.MetBy (.error (.runtime e))
      rw [metBy_runtime_iff, ← judge_error_eq_none_iff]
      cases header.compileError <;> simp [hresult]
  | error e =>
    rw [runScript_of_compile_eq_error hcompile]
    cases e with
    | parse e =>
      rw [metBy_parse_iff]
      cases header.compileError <;> simp
    | compile es =>
      rw [metBy_compile_iff]
      cases header.compileError <;> simp
    | runtime e => exact absurd hcompile (compile_ne_runtime e)

end TestHeader

/-! ## Failures -/

/-- The words in front of an error that was not expected. -/
def ScriptError.unexpected : ScriptError → String
  | .parse _ | .compile _ => "unexpected compile error: "
  | .runtime _ => "unexpected runtime error: "

theorem message_of_no_expectation (hcompile : header.compileError = false)
    (herror : header.error = none) (houtput : header.output = none) {failure : TestFailure}
    (h : header.verdict source registry = some failure) :
    ∃ e, runScript source registry header.inputValue = .error e
      ∧ failure.message = e.unexpected ++ e.message := by
  unfold TestHeader.verdict at h
  cases hsource : compile source registry with
  | error e =>
    simp only [hsource, hcompile, Option.some.injEq] at h
    subst h
    refine ⟨e, runScript_of_compile_eq_error hsource _, ?_⟩
    cases e with
    | parse e => rfl
    | compile es => rfl
    | runtime e => exact absurd hsource (compile_ne_runtime e)
  | ok step =>
    simp only [hsource, hcompile] at h
    rw [runScript_of_compile_eq_ok hsource]
    unfold TestHeader.judge at h
    cases hresult : step.result header.inputValue with
    | ok value =>
      simp only [hresult, herror, houtput] at h
      cases h
    | error e =>
      simp only [hresult, herror, Option.some.injEq] at h
      subst h
      exact ⟨.runtime e, rfl, rfl⟩

/-- **The verdict on a test is about the outcome of its script.** A test passes iff this outcome is
the one that the header expects: an expected compile error comes before all else, then an expected
runtime error, then an expected output. If nothing is expected and the test fails, its script has an
error, and the error is what is said about the failure. -/
theorem verdict_of_outcome (header : TestHeader) (source : String) (registry : Registry) :
    (header.verdict source registry = none
      ↔ header.MetBy (runScript source registry header.inputValue))
    ∧ (header.compileError = false → header.error = none → header.output = none →
      ∀ failure, header.verdict source registry = some failure →
        ∃ e, runScript source registry header.inputValue = .error e
          ∧ failure.message = e.unexpected ++ e.message) :=
  ⟨TestHeader.verdict_eq_none_iff, fun hcompile herror houtput _ h =>
    message_of_no_expectation hcompile herror houtput h⟩

/-- A test that expects a result of some kind. -/
def plainHeader : TestHeader := ⟨none, none, none, none, false⟩

/-- A script that maps a text fails; a test tells why, and passes if it expects that. -/
theorem verdict_of_outcome_plainHeader :
    (∃ failure e, plainHeader.verdict "echo x\n  trim" .builtin = some failure
      ∧ runScript "echo x\n  trim" .builtin .unit = .error e
      ∧ failure.message = e.unexpected ++ e.message
      ∧ failure.message = "unexpected runtime error: expected list input to map, got String")
    ∧ { plainHeader with error := some "list input" }.MetBy
      (runScript "echo x\n  trim" .builtin .unit) := by
  constructor
  · have hverdict : (plainHeader.verdict "echo x\n  trim" .builtin).map TestFailure.message
        = some "unexpected runtime error: expected list input to map, got String" := by
      decide +kernel
    obtain ⟨failure, hfailure, hmessage⟩ := Option.map_eq_some_iff.mp hverdict
    obtain ⟨e, hrun, hsaid⟩ :=
      (verdict_of_outcome plainHeader "echo x\n  trim" .builtin).2 rfl rfl rfl failure hfailure
    exact ⟨failure, e, hfailure, hrun, hsaid, hmessage⟩
  · refine (verdict_of_outcome _ _ _).1.mp (Option.isNone_iff_eq_none.mp ?_)
    decide +kernel

end CheckScript
