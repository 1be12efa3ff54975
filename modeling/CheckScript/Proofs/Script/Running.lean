import CheckScript.Command.Builtin
import CheckScript.Step.Basic
import Mathlib.Data.List.Basic

/-!
# Steps that leave their context alone

A pipe looks at its context only at the end, and gives its last output if nothing was put into it.
So a pipe whose first steps put nothing aside is the two parts run one after the other
(`runPipe_append`). Of the commands that come with the library only `save` puts anything aside
(`keepsContext_of_builtin`).

`forEach` runs its body on the items from left to right as far as anyone can tell
(`run_forEach_list`): the results in order, or the error of the first item that fails.
-/

namespace CheckScript

namespace Step

/-- Calling the step leaves every context as it was. -/
def KeepsContext (step : Step) : Prop :=
  ∀ context input, (step.run context input).context = context

theorem keepsContext_pure (f : Value → Value) : (Step.pure f).KeepsContext := by
  intro context input
  rw [Step.pure, run]

theorem keepsContext_attempt (f : Value → Except RuntimeError Value) :
    (Step.attempt f).KeepsContext := by
  intro context input
  rw [Step.attempt, run]

theorem run_forEach_other (body : Step) (context : Context) {input : Value}
    (h : ∀ items, input ≠ .list items) :
    (Step.forEach body).run context input = ⟨.error (.expectedList input.kind), context⟩ := by
  rw [run]
  exact h

theorem keepsContext_forEach (body : Step) : (Step.forEach body).KeepsContext := by
  intro context input
  cases input with
  | list items => rw [run]
  | unit => rw [run_forEach_other body context (by simp)]
  | text s => rw [run_forEach_other body context (by simp)]
  | record fields => rw [run_forEach_other body context (by simp)]

/-! ## Pipes -/

theorem runPipe_nil_fresh (value : Value) : runPipe [] Context.fresh value = .ok value := by
  rw [runPipe]
  rfl

theorem runPipe_cons (step : Step) (steps : List Step) (context : Context) (value : Value) :
    runPipe (step :: steps) context value
      = (step.run context value).result.bind
          (runPipe steps (step.run context value).context) := by
  rw [runPipe]
  cases step.run context value with
  | mk result context => cases result <;> rfl

/-- **A pipe that starts with steps that put nothing aside is two pipes one after the other.** -/
theorem runPipe_append {steps : List Step} (h : ∀ step ∈ steps, step.KeepsContext)
    (more : List Step) (value : Value) :
    runPipe (steps ++ more) Context.fresh value
      = (runPipe steps Context.fresh value).bind (runPipe more Context.fresh) := by
  induction steps generalizing value with
  | nil =>
    rw [List.nil_append, runPipe_nil_fresh]
    rfl
  | cons step steps ih =>
    rw [List.cons_append, runPipe_cons, runPipe_cons, h step List.mem_cons_self]
    cases (step.run Context.fresh value).result with
    | error e => rfl
    | ok value => exact ih (fun s hs => h s (List.mem_cons_of_mem _ hs)) value

theorem result_pipe (steps : List Step) (value : Value) :
    (Step.pipe steps).result value = runPipe steps Context.fresh value := by
  rw [result, run]

/-! ## Steps for each element -/

theorem allOrFirstError_map (f : Value → Except RuntimeError Value) (items : List Value) :
    allOrFirstError (items.map f) = items.mapM f := by
  induction items with
  | nil => rfl
  | cons item items ih =>
    rw [List.map_cons, List.mapM_cons]
    cases f item with
    | error e => rfl
    | ok value =>
      rw [allOrFirstError, ih]
      cases items.mapM f <;> rfl

/-- **A step for each element gives the results of its body in order, or the first error.** -/
theorem run_forEach_list (body : Step) (context : Context) (items : List Value) :
    ((Step.forEach body).run context (.list items)).result
      = (items.mapM body.result).map .list := by
  have h := joinBranches_inOrder (items.map fun item => (body.run Context.fresh item).result)
  rw [List.length_map] at h
  rw [run]
  simp only [h]
  rw [allOrFirstError_map]
  rfl

/-- A pipe of one step for each element: a list is mapped, and anything else is refused. -/
theorem runPipe_forEach (body : Step) (value : Value) :
    runPipe [.forEach body] Context.fresh value
      = match value with
        | .list items => (items.mapM body.result).map .list
        | other => .error (.expectedList other.kind) := by
  rw [runPipe_cons, keepsContext_forEach]
  cases value with
  | list items =>
    rw [run_forEach_list]
    show _ = (items.mapM body.result).map Value.list
    cases items.mapM body.result with
    | error e => rfl
    | ok values => exact runPipe_nil_fresh _
  | unit => rw [run_forEach_other body _ (by simp)]; rfl
  | text s => rw [run_forEach_other body _ (by simp)]; rfl
  | record fields => rw [run_forEach_other body _ (by simp)]; rfl

end Step

/-! ## Commands -/

theorem Dict.eq_or_get?_of_insert {α : Type} {dict : Dict α} {key other : String}
    {value found : α} (h : (dict.insert key value).get? other = some found) :
    (other, found) = (key, value) ∨ dict.get? other = some found := by
  by_cases hkey : key = other
  · subst hkey
    rw [dict.get?_insert_self] at h
    exact .inl (by rw [Option.some.inj h])
  · rw [dict.get?_insert_of_ne value hkey] at h
    exact .inr h

/-- The names of the commands of every script, each with its command. -/
theorem builtin_cases {name : String} {command : Command}
    (h : Registry.builtin.get? name = some command) :
    (name, command) ∈ [("load", ⟨.escaped, Command.load⟩), ("save", ⟨.escaped, Command.save⟩),
      ("template", ⟨.escaped, Command.template⟩), ("trim", ⟨.escaped, Command.trim⟩),
      ("join", ⟨.escaped, Command.join⟩), ("split", ⟨.escaped, Command.split⟩),
      ("parseDate", ⟨.escaped, Command.parseDate⟩), ("extract", ⟨.raw, Command.extract⟩),
      ("echo", (⟨.escaped, Command.echo⟩ : Command))] := by
  iterate 9 refine List.mem_cons.mpr ((Dict.eq_or_get?_of_insert h).imp_right fun h => ?_)
  cases h

namespace Command

/-- Every step that the factory makes leaves its context alone. -/
def KeepsContext (build : Factory) : Prop :=
  ∀ argument step, build argument = .ok step → step.KeepsContext

theorem ok_of_requireArgument_bind {name : String} {argument : Option String} {step : Step}
    {make : String → Except CommandError Step}
    (h : requireArgument name argument >>= make = .ok step) : ∃ given, make given = .ok step := by
  cases argument with
  | none => cases h
  | some given => exact ⟨given, h⟩

theorem keepsContext_load : KeepsContext load := by
  intro argument step h
  obtain ⟨key, hkey⟩ := ok_of_requireArgument_bind h
  cases hkey
  intro context input
  rw [Step.run]

theorem keepsContext_template : KeepsContext template := by
  intro argument step h
  obtain ⟨text, htext⟩ := ok_of_requireArgument_bind h
  cases htext
  intro context input
  rw [Step.run]

theorem keepsContext_extract : KeepsContext extract := by
  intro argument step h
  obtain ⟨written, hwritten⟩ := ok_of_requireArgument_bind h
  split at hwritten
  · cases hwritten
  · cases hwritten
    exact Step.keepsContext_attempt _

theorem keepsContext_of_attempt {build : Factory}
    (h : ∀ argument, ∃ f, build argument = .ok (.attempt f)) : KeepsContext build := by
  intro argument step hstep
  obtain ⟨f, hf⟩ := h argument
  rw [hf] at hstep
  cases hstep
  exact Step.keepsContext_attempt f

theorem keepsContext_echo : KeepsContext echo := by
  intro argument step h
  cases h
  exact Step.keepsContext_pure _

end Command

/-- **Of the commands of every script only `save` puts anything aside.** -/
theorem keepsContext_of_builtin {name : String} {command : Command} (hname : name ≠ "save")
    (hget : Registry.builtin.get? name = some command) : Command.KeepsContext command.build := by
  have hcases := builtin_cases hget
  simp only [List.mem_cons, Prod.mk.injEq, List.not_mem_nil, or_false] at hcases
  rcases hcases with ⟨-, rfl⟩ | ⟨hsave, -⟩ | ⟨-, rfl⟩ | ⟨-, rfl⟩ | ⟨-, rfl⟩ | ⟨-, rfl⟩ | ⟨-, rfl⟩
    | ⟨-, rfl⟩ | ⟨-, rfl⟩
  · exact Command.keepsContext_load
  · exact absurd hsave hname
  · exact Command.keepsContext_template
  · exact Command.keepsContext_of_attempt fun _ => ⟨_, rfl⟩
  · exact Command.keepsContext_of_attempt fun _ => ⟨_, rfl⟩
  · exact Command.keepsContext_of_attempt fun _ => ⟨_, rfl⟩
  · exact Command.keepsContext_of_attempt fun _ => ⟨_, rfl⟩
  · exact Command.keepsContext_extract
  · exact Command.keepsContext_echo

end CheckScript
