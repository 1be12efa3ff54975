import CheckScript.Proofs.Step.Schedule
import Mathlib.Data.List.Induction

/-!
# Composed steps keep to themselves

A pipe and a step for each element neither see nor change the context they are called in, however
deep in them a step fails. A pipe ends at its first failure, so that the steps behind it do not
matter; if none of its steps fails, it gives its context as a record, or its last output if nothing
is bound there at the end.

## Main statements

* `result_pipe_eq_error_iff`: a pipe fails iff one of its steps is the first to fail, and with the
  error of that step.
* `composed_steps_isolated`: all of this, under every schedule.
-/

namespace CheckScript

namespace Step

variable {steps : List Step} {schedule : Schedule} {input : Value} {k : Nat} {e : RuntimeError}

/-- The step is made of other steps. -/
def Composed : Step → Prop
  | .leaf _ => False
  | .pipe _ => True
  | .forEach _ => True

/-! ## Callers -/

theorem runUnder_of_composed {step : Step} (h : step.Composed) (schedule : Schedule)
    (input : Value) :
    ∃ result, ∀ caller, step.runUnder schedule caller input = ⟨result, caller⟩ := by
  cases step with
  | leaf act => cases h
  | pipe steps => exact ⟨_, fun caller => runUnder_pipe steps schedule caller input⟩
  | forEach body =>
    obtain ⟨items, rfl⟩ | hother := list_or_other input
    · exact ⟨_, fun caller => runUnder_forEach_list body schedule caller items⟩
    · exact ⟨_, fun caller => runUnder_forEach_other body schedule caller hother⟩

/-! ## The first failure -/

/-- The step at index `k` of a pipe is the first that fails on the input, and fails with `e`. -/
def FirstFails (steps : List Step) (schedule : Schedule) (input : Value) (k : Nat)
    (e : RuntimeError) : Prop :=
  ∃ step context value, steps[k]? = some step
    ∧ stateUnder (steps.take k) schedule 0 Context.fresh input = .ok (context, value)
    ∧ (step.runUnder (schedule.inside k) context value).result = .error e

theorem FirstFails.append (h : FirstFails steps schedule input k e) (more : List Step) :
    FirstFails (steps ++ more) schedule input k e := by
  obtain ⟨step, context, value, hstep, hbefore, hfails⟩ := h
  have hk := (List.getElem?_eq_some_iff.mp hstep).1
  refine ⟨step, context, value, ?_, ?_, hfails⟩
  · rw [List.getElem?_append_left hk, hstep]
  · rw [List.take_append_of_le_length (Nat.le_of_lt hk), hbefore]

/-- **What stands behind the first step that fails does not matter.** -/
theorem stateUnder_of_firstFails (h : FirstFails steps schedule input k e) (more : List Step) :
    stateUnder (steps.take (k + 1) ++ more) schedule 0 Context.fresh input = .error e := by
  obtain ⟨step, context, value, hstep, hbefore, hfails⟩ := h
  have hk : (steps.take k).length = k :=
    List.length_take_of_le (Nat.le_of_lt (List.getElem?_eq_some_iff.mp hstep).1)
  -- the steps before it come to their end, and it fails on what they leave
  rw [List.take_add_one, hstep, List.append_assoc, stateUnder_append, hbefore, hk, Nat.zero_add]
  show stateUnder (step :: more) schedule k context value = .error e
  rw [stateUnder_cons, hfails]
  rfl

/-- The last step starts where the steps before it end. -/
theorem stateUnder_concat (steps : List Step) (step : Step) (schedule : Schedule)
    (input : Value) :
    stateUnder (steps ++ [step]) schedule 0 Context.fresh input
      = (stateUnder steps schedule 0 Context.fresh input).bind fun state =>
        (step.runUnder (schedule.inside steps.length) state.1 state.2).result.map fun output =>
          ((step.runUnder (schedule.inside steps.length) state.1 state.2).context, output) := by
  simp only [stateUnder_append, Nat.zero_add, stateUnder_singleton]

/-- **If the steps of a pipe do not come to their end, one of them is the first that fails.** -/
theorem firstFails_of_stateUnder_eq_error
    (h : stateUnder steps schedule 0 Context.fresh input = .error e) :
    ∃ k, FirstFails steps schedule input k e := by
  -- from the end: the steps before the last one fail, or come to their end and the last one fails
  induction steps using List.reverseRecOn with
  | nil =>
    rw [stateUnder_nil] at h
    cases h
  | append_singleton before step ih =>
    rw [stateUnder_concat, bind_eq_error_iff] at h
    rcases h with hbefore | ⟨⟨context, value⟩, hbefore, hlast⟩
    · obtain ⟨k, hk⟩ := ih hbefore
      exact ⟨k, hk.append [step]⟩
    · refine ⟨before.length, step, context, value, by simp, by simpa using hbefore, ?_⟩
      exact map_eq_error_iff.mp hlast

/-- **A pipe fails iff one of its steps is the first to fail, and then with the error of that
step.** -/
theorem result_pipe_eq_error_iff (caller : Context) :
    ((Step.pipe steps).runUnder schedule caller input).result = .error e
      ↔ ∃ k, FirstFails steps schedule input k e := by
  rw [runUnder_pipe, map_eq_error_iff]
  constructor
  · exact firstFails_of_stateUnder_eq_error
  · rintro ⟨k, hfails⟩
    have hall := stateUnder_of_firstFails hfails (steps.drop (k + 1))
    rwa [List.take_append_drop] at hall

/-! ## Pipes that come to their end -/

theorem pipeResult_of_bound {context : Context} (last : Value)
    (h : ∃ key value, context.get? key = some value) :
    pipeResult context last = context.toValue := by
  obtain ⟨key, value, hbound⟩ := h
  rw [pipeResult, if_neg]
  intro hempty
  rw [Dict.isEmpty_iff.mp hempty key] at hbound
  cases hbound

theorem pipeResult_of_unbound {context : Context} (last : Value)
    (h : ∀ key, context.get? key = none) : pipeResult context last = last := by
  rw [pipeResult, if_pos (Dict.isEmpty_iff.mpr h)]

/-- What a pipe leaves at its end comes from its last step. -/
theorem run_last_of_stateUnder {before : List Step} {step : Step} {final : Context} {last : Value}
    (h : stateUnder (before ++ [step]) schedule 0 Context.fresh input = .ok (final, last)) :
    ∃ context value, stateUnder before schedule 0 Context.fresh input = .ok (context, value)
      ∧ step.runUnder (schedule.inside before.length) context value = ⟨.ok last, final⟩ := by
  rw [stateUnder_concat, bind_eq_ok_iff] at h
  obtain ⟨⟨context, value⟩, hbefore, hstep⟩ := h
  obtain ⟨output, houtput, heq⟩ := map_eq_ok_iff.mp hstep
  cases heq
  refine ⟨context, value, hbefore, ?_⟩
  rw [← houtput]

/-- **A composed step keeps to itself.** Under every schedule, a pipe and a step for each element
leave the context of the caller as it was, whether they fail or not, and give the same result for
every caller. A pipe fails iff one of its steps is the first to fail, and with the error of that
step, whatever stands behind it. A pipe that does not fail gives its final context as a record if
any key is bound there, and otherwise the output of its last step, or its input if it has no
step. -/
theorem composed_steps_isolated (schedule : Schedule) :
    (∀ step : Step, step.Composed → ∀ caller input,
      (step.runUnder schedule caller input).context = caller
      ∧ ∀ other, (step.runUnder schedule other input).result
          = (step.runUnder schedule caller input).result)
    ∧ (∀ steps input e,
      (∀ caller, ((Step.pipe steps).runUnder schedule caller input).result = .error e
        ↔ ∃ k, FirstFails steps schedule input k e)
      ∧ ∀ k, FirstFails steps schedule input k e → ∀ caller more,
        (Step.pipe (steps.take (k + 1) ++ more)).runUnder schedule caller input
          = ⟨.error e, caller⟩)
    ∧ (∀ steps caller input value,
      ((Step.pipe steps).runUnder schedule caller input).result = .ok value →
      ∃ final last, stateUnder steps schedule 0 Context.fresh input = .ok (final, last)
        ∧ ((∃ key bound, final.get? key = some bound) → value = final.toValue)
        ∧ ((∀ key, final.get? key = none) → value = last)
        ∧ (steps = [] → final = Context.fresh ∧ last = input)
        ∧ ∀ before step, steps = before ++ [step] →
          ∃ context output, stateUnder before schedule 0 Context.fresh input = .ok (context, output)
            ∧ step.runUnder (schedule.inside before.length) context output = ⟨.ok last, final⟩)
    ∧ ∀ step : Step, step.runUnder .inOrder = step.run := by
  refine ⟨fun step hstep caller input => ?_, fun steps input e => ⟨fun caller => ?_, ?_⟩, ?_,
    runUnder_inOrder⟩
  · obtain ⟨result, hresult⟩ := runUnder_of_composed hstep schedule input
    exact ⟨by rw [hresult], fun other => by rw [hresult, hresult]⟩
  · exact result_pipe_eq_error_iff caller
  · intro k hfails caller more
    rw [runUnder_pipe, stateUnder_of_firstFails hfails]
    rfl
  · intro steps caller input value hvalue
    rw [runUnder_pipe, map_eq_ok_iff] at hvalue
    obtain ⟨⟨final, last⟩, hstate, rfl⟩ := hvalue
    refine ⟨final, last, hstate, pipeResult_of_bound last, pipeResult_of_unbound last, ?_, ?_⟩
    · rintro rfl
      rw [stateUnder_nil] at hstate
      cases hstate
      exact ⟨rfl, rfl⟩
    · rintro before step rfl
      exact run_last_of_stateUnder hstate

/-- A leaf that forgets what was put aside under a name. -/
def forget (key : String) : Step :=
  .leaf fun context input => ⟨.ok input, context.erase key⟩

/-- A pipe that fails inside an element of a list, behind a step that has put something aside; and
a pipe that puts something aside and forgets it. -/
theorem composed_steps_isolated_keepText :
    (Step.pipe ([keepText, .forEach keepText].take 2 ++ [forget "kept"])).runUnder .backwards
        (Context.fresh.insert "mine" .unit) (.text "a")
      = ⟨.error (.expectedList .text), Context.fresh.insert "mine" .unit⟩
    ∧ ∃ final last, stateUnder [keepText, forget "kept"] .backwards 0 Context.fresh (.text "a")
        = .ok (final, last)
      ∧ (∀ key, final.get? key = none) ∧ Value.text "a" = last := by
  have hfails : FirstFails [keepText, .forEach keepText] .backwards (.text "a") 1
      (.expectedList .text) := ⟨_, _, _, rfl, rfl, rfl⟩
  have hends : ((Step.pipe [keepText, forget "kept"]).runUnder .backwards Context.fresh
      (.text "a")).result = .ok (.text "a") := rfl
  refine ⟨((composed_steps_isolated .backwards).2.1 _ _ _).2 1 hfails _ _, ?_⟩
  obtain ⟨final, last, hstate, -, hunbound, -⟩ :=
    (composed_steps_isolated .backwards).2.2.1 _ _ _ _ hends
  have hforgotten : ∀ key, final.get? key = none := by
    cases hstate
    exact fun _ => rfl
  exact ⟨final, last, hstate, hforgotten, hunbound hforgotten⟩

end Step

end CheckScript
