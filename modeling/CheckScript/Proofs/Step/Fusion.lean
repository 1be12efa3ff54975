import CheckScript.Proofs.Script.Running
import CheckScript.Proofs.Step.Schedule

/-!
# Fusing steps for each element

A list can be taken through a pipe element by element, or stage by stage: all of its elements
through the first steps, and then what came out through the others. The order in which the elements
meet the steps is another one, so that another element may be the first to fail, but the two ways
succeed on the same lists and with the same results (`mapM_bind_sameUpToError`). `SameUpToError` is
this relation between what two runs give.

The steps of the first stage must leave their context alone. Then nothing is in the context of its
pipe at the end, and what the pipe hands over is its last output (`runPipe_append`). The steps of
the second stage may do with theirs what they like.

## Main statements

* `pipesAgree_forEach_append`: a step for each element cut in two, wherever it stands in a pipe.
* `sameUpToError_runUnder`: neither side depends on the order in which branches end.
-/

namespace CheckScript

/-! ## The same value, or no value -/

/-- Both succeed with the same value, or both fail, for whatever reasons. -/
inductive SameUpToError {ε ε' α : Type} : Except ε α → Except ε' α → Prop
  | ok (value : α) : SameUpToError (.ok value) (.ok value)
  | error (e : ε) (e' : ε') : SameUpToError (.error e) (.error e')

namespace SameUpToError

section

variable {ε ε' ε'' α : Type} {x : Except ε α} {y : Except ε' α} {z : Except ε'' α}

theorem refl (x : Except ε α) : SameUpToError x x := by
  cases x with
  | ok value => exact .ok value
  | error e => exact .error e e

theorem symm (h : SameUpToError x y) : SameUpToError y x := by
  cases h with
  | ok value => exact .ok value
  | error e e' => exact .error e' e

theorem trans (h : SameUpToError x y) (h' : SameUpToError y z) : SameUpToError x z := by
  cases h with
  | ok value =>
    cases h' with
    | ok _ => exact .ok value
  | error e e' =>
    cases h' with
    | error _ e'' => exact .error e e''

/-- What agrees on success agrees: where one side has no value, the other has none either. -/
theorem iff_eq_ok : SameUpToError x y ↔ ∀ value, x = .ok value ↔ y = .ok value := by
  constructor
  · intro h value
    cases h with
    | ok other => simp
    | error e e' => simp
  · intro h
    cases x with
    | ok value =>
      rw [(h value).mp rfl]
      exact .ok value
    | error e =>
      cases y with
      | ok value => cases (h value).mpr rfl
      | error e' => exact .error e e'

/-- The errors may be worded in other terms. -/
theorem mapError {ε₁ ε₂ : Type} (h : SameUpToError x y) (f : ε → ε₁) (g : ε' → ε₂) :
    SameUpToError (x.mapError f) (y.mapError g) := by
  cases h with
  | ok value => exact .ok value
  | error e e' => exact .error (f e) (g e')

end

section

variable {α β : Type} {x y : Except RuntimeError α}

theorem bind {f g : α → Except RuntimeError β} (h : SameUpToError x y)
    (hnext : ∀ a, SameUpToError (f a) (g a)) : SameUpToError (x.bind f) (y.bind g) := by
  cases h with
  | ok value => exact hnext value
  | error e e' => exact .error e e'

theorem map (h : SameUpToError x y) (f : α → β) : SameUpToError (x.map f) (y.map f) := by
  cases h with
  | ok value => exact .ok (f value)
  | error e e' => exact .error e e'

end

end SameUpToError

/-! ## Lists of results -/

section

variable {f g : Value → Except RuntimeError Value} {items values : List Value}

theorem mapM_cons_eq_ok_iff {item : Value} :
    (item :: items).mapM f = .ok values
      ↔ ∃ first rest, f item = .ok first ∧ items.mapM f = .ok rest ∧ values = first :: rest := by
  rw [List.mapM_cons]
  cases f item with
  | error e => simp [Bind.bind, Except.bind]
  | ok first =>
    cases items.mapM f with
    | error e => simp [Bind.bind, Except.bind]
    | ok rest => simp [Bind.bind, Except.bind, Pure.pure, Except.pure, eq_comm]

theorem mapM_sameUpToError (h : ∀ item, SameUpToError (f item) (g item)) (items : List Value) :
    SameUpToError (items.mapM f) (items.mapM g) := by
  induction items with
  | nil => exact .ok []
  | cons item items ih =>
    rw [List.mapM_cons, List.mapM_cons]
    exact (h item).bind fun first => ih.bind fun rest => .ok (first :: rest)

/-- **Element by element or stage by stage**: the same lists come through, and the same values
come out. -/
theorem mapM_bind_sameUpToError (f g : Value → Except RuntimeError Value) (items : List Value) :
    SameUpToError (items.mapM fun item => (f item).bind g)
      ((items.mapM f).bind fun between => between.mapM g) := by
  refine SameUpToError.iff_eq_ok.mpr fun values => ?_
  rw [bind_eq_ok_iff]
  induction items generalizing values with
  | nil =>
    constructor
    · intro h
      exact ⟨[], rfl, h⟩
    · rintro ⟨between, hbetween, h⟩
      cases hbetween
      exact h
  | cons item items ih =>
    constructor
    · intro h
      obtain ⟨first, rest, hfirst, hrest, rfl⟩ := mapM_cons_eq_ok_iff.mp h
      obtain ⟨middle, hmiddle, hfirst⟩ := bind_eq_ok_iff.mp hfirst
      obtain ⟨between, hbetween, hrest⟩ := (ih rest).mp hrest
      exact ⟨middle :: between, mapM_cons_eq_ok_iff.mpr ⟨middle, between, hmiddle, hbetween, rfl⟩,
        mapM_cons_eq_ok_iff.mpr ⟨first, rest, hfirst, hrest, rfl⟩⟩
    · rintro ⟨_, hitems, h⟩
      obtain ⟨middle, between, hmiddle, hbetween, rfl⟩ := mapM_cons_eq_ok_iff.mp hitems
      obtain ⟨first, rest, hfirst, hrest, rfl⟩ := mapM_cons_eq_ok_iff.mp h
      exact mapM_cons_eq_ok_iff.mpr ⟨first, rest, bind_eq_ok_iff.mpr ⟨middle, hmiddle, hfirst⟩,
        (ih rest).mpr ⟨between, hbetween, hrest⟩, rfl⟩

end

namespace Step

/-! ## One step for each element -/

theorem result_forEach_list (body : Step) (items : List Value) :
    (Step.forEach body).result (.list items) = (items.mapM body.result).map .list := by
  rw [result, run_forEach_list]

theorem result_forEach_other (body : Step) {input : Value} (h : ∀ items, input ≠ .list items) :
    (Step.forEach body).result input = .error (.expectedList input.kind) := by
  rw [result, run_forEach_other body _ h]

/-- A step for each element does not look at the context around it. -/
theorem run_forEach_result (body : Step) (context : Context) (input : Value) :
    ((Step.forEach body).run context input).result = (Step.forEach body).result input := by
  obtain ⟨items, rfl⟩ | hother := list_or_other input
  · rw [run_forEach_list, result_forEach_list]
  · rw [run_forEach_other body _ hother, result_forEach_other body hother]

theorem runPipe_forEach_cons (body : Step) (steps : List Step) (context : Context)
    (input : Value) :
    runPipe (.forEach body :: steps) context input
      = ((Step.forEach body).result input).bind (runPipe steps context) := by
  rw [runPipe_cons, run_forEach_result, keepsContext_forEach]

theorem runPipe_sole_forEach (body : Step) (input : Value) :
    runPipe [.forEach body] Context.fresh input = (Step.forEach body).result input := by
  rw [runPipe_forEach_cons]
  cases (Step.forEach body).result input with
  | error e => rfl
  | ok output => exact runPipe_nil_fresh output

theorem forEach_sameUpToError {body body' : Step}
    (h : ∀ item, SameUpToError (body.result item) (body'.result item)) (input : Value) :
    SameUpToError ((Step.forEach body).result input) ((Step.forEach body').result input) := by
  obtain ⟨items, rfl⟩ | hother := list_or_other input
  · rw [result_forEach_list, result_forEach_list]
    exact (mapM_sameUpToError h items).map Value.list
  · rw [result_forEach_other body hother, result_forEach_other body' hother]
    exact .refl _

/-- **Fusion.** A pipe for each element is two of them one after the other, if the steps of the
first leave their context alone. -/
theorem forEach_append {fs : List Step} (h : ∀ step ∈ fs, step.KeepsContext) (gs : List Step)
    (input : Value) :
    SameUpToError ((Step.forEach (.pipe (fs ++ gs))).result input)
      (((Step.forEach (.pipe fs)).result input).bind (Step.forEach (.pipe gs)).result) := by
  obtain ⟨items, rfl⟩ | hother := list_or_other input
  · have hbody : (Step.pipe (fs ++ gs)).result
        = fun item => ((Step.pipe fs).result item).bind (Step.pipe gs).result := by
      funext item
      rw [result_pipe, result_pipe, runPipe_append h, funext (result_pipe gs)]
    have hstages : ((items.mapM (Step.pipe fs).result).map Value.list).bind
          (Step.forEach (.pipe gs)).result
        = ((items.mapM (Step.pipe fs).result).bind
            fun between => between.mapM (Step.pipe gs).result).map .list := by
      cases items.mapM (Step.pipe fs).result with
      | error e => rfl
      | ok between => exact result_forEach_list _ between
    rw [result_forEach_list, result_forEach_list, hbody, hstages]
    exact (mapM_bind_sameUpToError _ _ items).map Value.list
  · rw [result_forEach_other _ hother, result_forEach_other _ hother]
    exact .error _ _

/-! ## In a pipe -/

/-- Pipes of these steps give the same on every input and in every context, except for why they
fail. -/
def PipesAgree (xs ys : List Step) : Prop :=
  ∀ context input, SameUpToError (runPipe xs context input) (runPipe ys context input)

theorem PipesAgree.refl (steps : List Step) : PipesAgree steps steps :=
  fun _ _ => .refl _

theorem PipesAgree.trans {xs ys zs : List Step} (h : PipesAgree xs ys) (h' : PipesAgree ys zs) :
    PipesAgree xs zs :=
  fun context input => (h context input).trans (h' context input)

theorem PipesAgree.append_left {xs ys : List Step} (h : PipesAgree xs ys) (front : List Step) :
    PipesAgree (front ++ xs) (front ++ ys) := by
  induction front with
  | nil => exact h
  | cons step front ih =>
    intro context input
    rw [List.cons_append, List.cons_append, runPipe_cons, runPipe_cons]
    exact (SameUpToError.refl _).bind (ih _)

theorem PipesAgree.forEach {fs gs xs ys : List Step} (hbody : PipesAgree fs gs)
    (h : PipesAgree xs ys) :
    PipesAgree (.forEach (.pipe fs) :: xs) (.forEach (.pipe gs) :: ys) := by
  intro context input
  rw [runPipe_forEach_cons, runPipe_forEach_cons]
  refine (forEach_sameUpToError (fun item => ?_) input).bind (h context)
  rw [result_pipe, result_pipe]
  exact hbody Context.fresh item

/-- **A step for each element can be cut in two, wherever it stands in a pipe.** -/
theorem pipesAgree_forEach_append {fs : List Step} (h : ∀ step ∈ fs, step.KeepsContext)
    (gs more : List Step) :
    PipesAgree (.forEach (.pipe (fs ++ gs)) :: more)
      (.forEach (.pipe fs) :: .forEach (.pipe gs) :: more) := by
  intro context input
  have hstages : runPipe (.forEach (.pipe fs) :: .forEach (.pipe gs) :: more) context input
      = (((Step.forEach (.pipe fs)).result input).bind (Step.forEach (.pipe gs)).result).bind
          (runPipe more context) := by
    rw [runPipe_forEach_cons]
    cases (Step.forEach (.pipe fs)).result input with
    | error e => rfl
    | ok between => exact runPipe_forEach_cons _ more context between
  rw [runPipe_forEach_cons, hstages]
  exact (forEach_append h gs input).bind fun _ => .refl _

/-! ## Under a schedule -/

/-- **Branches that end in another order give the same**, except for which of them is said to have
failed. -/
theorem sameUpToError_runUnder (step : Step) (schedule : Schedule) (context : Context)
    (input : Value) :
    SameUpToError (step.runUnder schedule context input).result
      (step.run context input).result := by
  refine SameUpToError.iff_eq_ok.mpr fun value => ?_
  rw [← runUnder_inOrder]
  exact ⟨runUnder_result_mono step _ _ _ _ _, runUnder_result_mono step _ _ _ _ _⟩

/-- Steps that agree when their branches end in the order of the elements agree whenever they
end. -/
theorem sameUpToError_runUnder_of_run {step other : Step} {context context' : Context}
    {input : Value}
    (h : SameUpToError (step.run context input).result (other.run context' input).result)
    (schedule schedule' : Schedule) :
    SameUpToError (step.runUnder schedule context input).result
      (other.runUnder schedule' context' input).result :=
  ((sameUpToError_runUnder step schedule context input).trans h).trans
    (sameUpToError_runUnder other schedule' context' input).symm

end Step

end CheckScript
