import CheckScript.Proofs.Step.Joining
import CheckScript.Step.Basic

/-!
# Running in any order

`Step.run` joins the branches of a step for each element in the order of the elements. The branches
run side by side, so that they may end in any other order, at every such step and at every depth.
A `Schedule` says in which; `Step.runUnder` runs a step under a schedule, and `Step.run` is the run
in which the branches end in the order of the elements (`runUnder_inOrder`).

## Main statements

* `runUnder_result_mono`: a run that succeeds gives its value under every schedule.
* `completion_order_irrelevant`: what a step for each element gives under a schedule, and that the
  order matters neither to whether a run succeeds nor to its value.
-/

namespace CheckScript

/-! ## Results -/

theorem eq_ok_of_toOption {ε α : Type} {x : Except ε α} {a : α} (h : x.toOption = some a) :
    x = .ok a := by
  cases x with
  | error e => cases h
  | ok b => exact congrArg Except.ok (Option.some.inj h)

section

variable {α β : Type} {x : Except RuntimeError α} {b : β} {e : RuntimeError}

theorem bind_eq_ok_iff {f : α → Except RuntimeError β} :
    x.bind f = .ok b ↔ ∃ a, x = .ok a ∧ f a = .ok b := by
  cases x with
  | error e => simp [Except.bind]
  | ok a => simp [Except.bind]

theorem bind_eq_error_iff {f : α → Except RuntimeError β} :
    x.bind f = .error e ↔ x = .error e ∨ ∃ a, x = .ok a ∧ f a = .error e := by
  cases x with
  | error e => simp [Except.bind]
  | ok a => simp [Except.bind]

theorem map_eq_ok_iff {f : α → β} : x.map f = .ok b ↔ ∃ a, x = .ok a ∧ f a = b := by
  cases x with
  | error e => simp [Except.map]
  | ok a => simp [Except.map]

theorem map_eq_error_iff {f : α → β} : x.map f = .error e ↔ x = .error e := by
  cases x with
  | error e => simp [Except.map]
  | ok a => simp [Except.map]

end

/-! ## Schedules -/

/-- The order in which the branches end, for every call of a step for each element in a run. A call
has a place in the run: the indices, from the outside in, of the steps of a pipe and of the elements
of a list through which it was reached. -/
structure Schedule where
  order : List Nat → List BranchEnd → List BranchEnd
  perm : ∀ place ends, (order place ends).Perm ends

namespace Schedule

/-- All branches end in the order of the elements. -/
def inOrder : Schedule := ⟨fun _ ends => ends, fun _ ends => .refl ends⟩

/-- All branches end in the opposite order. -/
def backwards : Schedule := ⟨fun _ ends => ends.reverse, fun _ ends => ends.reverse_perm⟩

/-- The schedule of the calls within the step, or the branch, at an index. -/
def inside (schedule : Schedule) (index : Nat) : Schedule :=
  ⟨fun place => schedule.order (index :: place), fun place => schedule.perm (index :: place)⟩

@[simp] theorem inside_inOrder (index : Nat) : inOrder.inside index = inOrder := rfl

end Schedule

namespace Step

mutual

/-- Runs a step in a context on an input, with branches that end as the schedule says. -/
def runUnder : Step → Schedule → Action
  | .leaf act, _, context, input => act context input
  | .pipe steps, schedule, context, input =>
    ⟨(stateUnder steps schedule 0 Context.fresh input).map fun state => pipeResult state.1 state.2,
      context⟩
  | .forEach body, schedule, context, .list items =>
    let results := items.mapIdx fun i item =>
      (runUnder body (schedule.inside i) Context.fresh item).result
    ⟨(joinBranches items.length (schedule.order [] (CheckScript.inOrder results))).map .list,
      context⟩
  | .forEach _, _, context, input => ⟨.error (.expectedList input.kind), context⟩

/-- The context and the output that steps of a pipe leave, the first of which has this index. -/
def stateUnder : List Step → Schedule → Nat → Context → Value →
    Except RuntimeError (Context × Value)
  | [], _, _, context, value => .ok (context, value)
  | step :: steps, schedule, index, context, value =>
    match runUnder step (schedule.inside index) context value with
    | ⟨.ok value, context⟩ => stateUnder steps schedule (index + 1) context value
    | ⟨.error e, _⟩ => .error e

end

@[elab_as_elim]
theorem induction {motive : Step → Prop} (leaf : ∀ act, motive (.leaf act))
    (pipe : ∀ steps, (∀ step ∈ steps, motive step) → motive (.pipe steps))
    (forEach : ∀ body, motive body → motive (.forEach body)) (step : Step) : motive step :=
  match step with
  | .leaf act => leaf act
  | .pipe steps => pipe steps fun step _ => induction leaf pipe forEach step
  | .forEach body => forEach body (induction leaf pipe forEach body)

/-! ## One step -/

theorem runUnder_leaf (act : Action) (schedule : Schedule) (context : Context) (input : Value) :
    (Step.leaf act).runUnder schedule context input = act context input := by
  rw [runUnder]

theorem runUnder_pipe (steps : List Step) (schedule : Schedule) (context : Context)
    (input : Value) :
    (Step.pipe steps).runUnder schedule context input
      = ⟨(stateUnder steps schedule 0 Context.fresh input).map fun state =>
          pipeResult state.1 state.2, context⟩ := by
  rw [runUnder]

/-- The result of the branch of a body for the element at an index. -/
def branchResult (body : Step) (schedule : Schedule) (index : Nat) (item : Value) :
    Except RuntimeError Value :=
  (body.runUnder (schedule.inside index) Context.fresh item).result

/-- The ends of the branches of a body for the elements of a list, in the order of the schedule. -/
def branchEnds (body : Step) (schedule : Schedule) (items : List Value) : List BranchEnd :=
  schedule.order [] (CheckScript.inOrder (items.mapIdx (body.branchResult schedule)))

theorem runUnder_forEach_list (body : Step) (schedule : Schedule) (context : Context)
    (items : List Value) :
    (Step.forEach body).runUnder schedule context (.list items)
      = ⟨(joinBranches items.length (body.branchEnds schedule items)).map .list, context⟩ := by
  rw [runUnder]
  rfl

theorem runUnder_forEach_other (body : Step) (schedule : Schedule) (context : Context)
    {input : Value} (h : ∀ items, input ≠ .list items) :
    (Step.forEach body).runUnder schedule context input
      = ⟨.error (.expectedList input.kind), context⟩ := by
  rw [runUnder]
  exact h

theorem list_or_other (input : Value) :
    (∃ items, input = .list items) ∨ ∀ items, input ≠ .list items := by
  by_cases h : ∃ items, input = .list items
  · exact .inl h
  · exact .inr fun items heq => h ⟨items, heq⟩

theorem stateUnder_nil (schedule : Schedule) (index : Nat) (context : Context) (value : Value) :
    stateUnder [] schedule index context value = .ok (context, value) := by
  rw [stateUnder]

theorem stateUnder_cons (step : Step) (steps : List Step) (schedule : Schedule) (index : Nat)
    (context : Context) (value : Value) :
    stateUnder (step :: steps) schedule index context value
      = (step.runUnder (schedule.inside index) context value).result.bind
          (stateUnder steps schedule (index + 1)
            (step.runUnder (schedule.inside index) context value).context) := by
  rw [stateUnder]
  cases step.runUnder (schedule.inside index) context value with
  | mk result context => cases result <;> rfl

theorem stateUnder_singleton (step : Step) (schedule : Schedule) (index : Nat) (context : Context)
    (value : Value) :
    stateUnder [step] schedule index context value
      = (step.runUnder (schedule.inside index) context value).result.map fun output =>
        ((step.runUnder (schedule.inside index) context value).context, output) := by
  rw [stateUnder_cons]
  cases (step.runUnder (schedule.inside index) context value).result with
  | error e => rfl
  | ok output => exact stateUnder_nil schedule (index + 1) _ output

/-- Steps one after the other: the second ones start where the first ones end. -/
theorem stateUnder_append (steps more : List Step) (schedule : Schedule) (index : Nat)
    (context : Context) (value : Value) :
    stateUnder (steps ++ more) schedule index context value
      = (stateUnder steps schedule index context value).bind fun state =>
          stateUnder more schedule (index + steps.length) state.1 state.2 := by
  induction steps generalizing index context value with
  | nil =>
    rw [stateUnder_nil]
    rfl
  | cons step steps ih =>
    rw [List.cons_append, stateUnder_cons, stateUnder_cons]
    cases (step.runUnder (schedule.inside index) context value).result with
    | error e => rfl
    | ok value =>
      show stateUnder (steps ++ more) schedule (index + 1) _ value
        = (stateUnder steps schedule (index + 1) _ value).bind _
      rw [ih, List.length_cons, Nat.add_assoc, Nat.add_comm 1]

/-! ## The order of the elements -/

theorem stateUnder_inOrder {steps : List Step}
    (h : ∀ step ∈ steps, ∀ context input,
      step.runUnder Schedule.inOrder context input = step.run context input)
    (index : Nat) (context : Context) (value : Value) :
    (stateUnder steps Schedule.inOrder index context value).map
        (fun state => pipeResult state.1 state.2)
      = runPipe steps context value := by
  induction steps generalizing index context value with
  | nil =>
    rw [stateUnder_nil, runPipe]
    rfl
  | cons step steps ih =>
    have hrest := ih fun s hs => h s (List.mem_cons_of_mem _ hs)
    rw [stateUnder_cons, runPipe, Schedule.inside_inOrder, h step List.mem_cons_self]
    cases step.run context value with
    | mk result context =>
      cases result with
      | error e => rfl
      | ok value => exact hrest (index + 1) context value

/-- **`Step.run` is the run in which branches end in the order of the elements.** -/
theorem runUnder_inOrder (step : Step) : step.runUnder Schedule.inOrder = step.run := by
  funext context input
  induction step using Step.induction generalizing context input with
  | leaf act => rw [runUnder_leaf, run]
  | pipe steps ih => rw [runUnder_pipe, run, stateUnder_inOrder ih]
  | forEach body ih =>
    obtain ⟨items, rfl⟩ | hother := list_or_other input
    · -- in this schedule a branch does not depend on its place
      have hbranch : body.branchResult Schedule.inOrder
          = fun _ item => (body.run Context.fresh item).result := by
        funext i item
        rw [branchResult, Schedule.inside_inOrder, ih]
      have hmap : items.mapIdx (fun _ item => (body.run Context.fresh item).result)
          = items.map fun item => (body.run Context.fresh item).result :=
        List.ext_getElem (by simp) (by simp)
      rw [runUnder_forEach_list, run, branchEnds, hbranch, hmap]
      rfl
    · rw [runUnder_forEach_other body _ _ hother, run]
      exact hother

/-! ## Any order -/

/-- A leaf does the same under every schedule, and a step made of steps leaves the context as it
was. -/
theorem context_runUnder (step : Step) (schedule other : Schedule) (context : Context)
    (input : Value) :
    (step.runUnder schedule context input).context
      = (step.runUnder other context input).context := by
  cases step with
  | leaf act => rw [runUnder_leaf, runUnder_leaf]
  | pipe steps => rw [runUnder_pipe, runUnder_pipe]
  | forEach body =>
    obtain ⟨items, rfl⟩ | hother := list_or_other input
    · rw [runUnder_forEach_list, runUnder_forEach_list]
    · rw [runUnder_forEach_other body _ _ hother, runUnder_forEach_other body _ _ hother]

theorem branchEnds_perm (body : Step) (schedule : Schedule) (items : List Value) :
    (body.branchEnds schedule items).Perm
      (CheckScript.inOrder (items.mapIdx (body.branchResult schedule))) :=
  schedule.perm [] _

/-- A step for each element gives values iff they are those of its branches, in the order of the
elements. -/
theorem joinBranches_branchEnds_eq_ok_iff {body : Step} {schedule : Schedule}
    {items values : List Value} :
    joinBranches items.length (body.branchEnds schedule items) = .ok values
      ↔ values.length = items.length
        ∧ ∀ i item value, items[i]? = some item → values[i]? = some value →
          body.branchResult schedule i item = .ok value := by
  have h := @joinBranches_eq_ok_iff _ _ (body.branchEnds_perm schedule items) values
  rw [List.length_mapIdx] at h
  rw [h]
  constructor
  · intro heq
    have hlength : values.length = items.length := by
      have := congrArg List.length heq
      rw [List.length_mapIdx, List.length_map] at this
      exact this.symm
    refine ⟨hlength, fun i item value hitem hvalue => ?_⟩
    have hone := congrArg (·[i]?) heq
    simpa [hitem, hvalue] using hone
  · rintro ⟨hlength, hbranches⟩
    refine List.ext_getElem (by simp [hlength]) fun i hi hi' => ?_
    rw [List.length_mapIdx] at hi
    rw [List.length_map] at hi'
    rw [List.getElem_mapIdx, List.getElem_map]
    exact hbranches i _ _ (List.getElem?_eq_getElem hi) (List.getElem?_eq_getElem hi')

/-- A step for each element fails only with the error of a branch. -/
theorem branchResult_of_joinBranches_eq_error {body : Step} {schedule : Schedule}
    {items : List Value} {e : RuntimeError}
    (h : joinBranches items.length (body.branchEnds schedule items) = .error e) :
    ∃ i item, items[i]? = some item ∧ body.branchResult schedule i item = .error e := by
  have hmem : .error e ∈ items.mapIdx (body.branchResult schedule) := by
    refine mem_of_joinBranches_eq_error (body.branchEnds_perm schedule items) ?_
    rw [List.length_mapIdx]
    exact h
  obtain ⟨i, hi, he⟩ := List.mem_mapIdx.mp hmem
  exact ⟨i, items[i], List.getElem?_eq_getElem hi, he⟩

/-- Branches that all succeed are joined to the list of their values, one for each element. -/
theorem joinBranches_branchEnds_of_all_ok {body : Step} {schedule : Schedule} {items : List Value}
    (h : ∀ i item, items[i]? = some item → ∃ value, body.branchResult schedule i item = .ok value) :
    ∃ values, joinBranches items.length (body.branchEnds schedule items) = .ok values
      ∧ values.length = items.length
      ∧ ∀ i item, items[i]? = some item →
        ∃ value, values[i]? = some value ∧ body.branchResult schedule i item = .ok value := by
  cases hjoin : joinBranches items.length (body.branchEnds schedule items) with
  | error e =>
    obtain ⟨i, item, hitem, he⟩ := branchResult_of_joinBranches_eq_error hjoin
    obtain ⟨value, hvalue⟩ := h i item hitem
    rw [he] at hvalue
    cases hvalue
  | ok values =>
    obtain ⟨hlength, hbranches⟩ := joinBranches_branchEnds_eq_ok_iff.mp hjoin
    refine ⟨values, rfl, hlength, fun i item hitem => ?_⟩
    have hi : i < values.length := by
      rw [hlength]
      exact (List.getElem?_eq_some_iff.mp hitem).1
    have hvalue := List.getElem?_eq_getElem hi
    exact ⟨values[i], hvalue, hbranches i item _ hitem hvalue⟩

/-- A branch that fails makes the join fail, with the error of a branch. -/
theorem joinBranches_branchEnds_of_error {body : Step} {schedule : Schedule} {items : List Value}
    (h : ∃ i item e, items[i]? = some item ∧ body.branchResult schedule i item = .error e) :
    ∃ i item e, items[i]? = some item ∧ body.branchResult schedule i item = .error e
      ∧ joinBranches items.length (body.branchEnds schedule items) = .error e := by
  cases hjoin : joinBranches items.length (body.branchEnds schedule items) with
  | error e =>
    obtain ⟨i, item, hitem, he⟩ := branchResult_of_joinBranches_eq_error hjoin
    exact ⟨i, item, e, hitem, he, rfl⟩
  | ok values =>
    obtain ⟨i, item, e, hitem, he⟩ := h
    obtain ⟨hlength, hbranches⟩ := joinBranches_branchEnds_eq_ok_iff.mp hjoin
    have hi : i < values.length := by
      rw [hlength]
      exact (List.getElem?_eq_some_iff.mp hitem).1
    have hvalue := hbranches i item _ hitem (List.getElem?_eq_getElem hi)
    rw [he] at hvalue
    cases hvalue

/-- No slot is empty when the loop has joined all branches. -/
theorem none_not_mem_of_fillSlots {body : Step} {schedule : Schedule} {items : List Value}
    {slots : List (Option Value)}
    (h : fillSlots (List.replicate items.length none) (body.branchEnds schedule items)
      = .ok slots) : none ∉ slots := by
  have hperm := body.branchEnds_perm schedule items
  rcases all_ok_or_error (items.mapIdx (body.branchResult schedule)) with ⟨values, hvalues⟩ | hfails
  · have hlength : items.length = values.length := by
      have := congrArg List.length hvalues
      rwa [List.length_mapIdx, List.length_map] at this
    rw [hvalues] at hperm
    rw [hlength, fillSlots_of_all_ok hperm] at h
    cases h
    simp
  · -- the loop would have ended with an error
    obtain ⟨e, -, hjoin⟩ := joinBranches_of_error hperm items.length hfails
    rw [joinBranches, h] at hjoin
    cases hjoin

/-- Steps that come to their end do so under every schedule, with the same context and output. -/
theorem stateUnder_mono {steps : List Step} {schedule other : Schedule}
    (h : ∀ step ∈ steps, ∀ (schedule other : Schedule) context input value,
      (step.runUnder schedule context input).result = .ok value →
      (step.runUnder other context input).result = .ok value)
    {index : Nat} {context : Context} {value : Value} {state : Context × Value}
    (hrun : stateUnder steps schedule index context value = .ok state) :
    stateUnder steps other index context value = .ok state := by
  induction steps generalizing index context value with
  | nil =>
    rw [stateUnder_nil] at hrun ⊢
    exact hrun
  | cons step steps ih =>
    rw [stateUnder_cons, bind_eq_ok_iff] at hrun ⊢
    obtain ⟨first, hfirst, hrest⟩ := hrun
    refine ⟨first, h step List.mem_cons_self _ _ _ _ _ hfirst, ?_⟩
    -- the next step starts in the same context too, whatever the schedule within this one
    rw [context_runUnder step (other.inside index) (schedule.inside index)]
    exact ih (fun s hs => h s (List.mem_cons_of_mem _ hs)) hrest

/-- **A run that succeeds gives its value under every schedule.** -/
theorem runUnder_result_mono (step : Step) : ∀ (schedule other : Schedule) context input value,
    (step.runUnder schedule context input).result = .ok value →
    (step.runUnder other context input).result = .ok value := by
  induction step using Step.induction with
  | leaf act =>
    intro schedule other context input value h
    rw [runUnder_leaf] at h ⊢
    exact h
  | pipe steps ih =>
    intro schedule other context input value h
    rw [runUnder_pipe, map_eq_ok_iff] at h ⊢
    obtain ⟨state, hstate, hvalue⟩ := h
    exact ⟨state, stateUnder_mono ih hstate, hvalue⟩
  | forEach body ih =>
    intro schedule other context input value h
    obtain ⟨items, rfl⟩ | hother := list_or_other input
    · rw [runUnder_forEach_list, map_eq_ok_iff] at h ⊢
      obtain ⟨values, hjoin, hvalue⟩ := h
      -- all branches succeed, so each of them gives the same under the other schedule
      obtain ⟨hlength, hbranches⟩ := joinBranches_branchEnds_eq_ok_iff.mp hjoin
      refine ⟨values, joinBranches_branchEnds_eq_ok_iff.mpr ⟨hlength, ?_⟩, hvalue⟩
      intro i item value hitem hvalue
      exact ih _ _ _ _ _ (hbranches i item value hitem hvalue)
    · rw [runUnder_forEach_other body _ _ hother] at h
      cases h

/-- **The order in which branches end does not matter.** Under every schedule, a step for each
element whose branches all succeed gives the list of their values, in the order of the elements and
one for each; if a branch fails, it gives the error of a branch that fails. No slot is empty when
all branches are joined. So a run under a schedule succeeds iff the run in the order of the elements
does, and then with the same value. -/
theorem completion_order_irrelevant (schedule : Schedule) :
    (∀ (body : Step) (context : Context) (items : List Value),
      ((∀ i item, items[i]? = some item →
          ∃ value, body.branchResult schedule i item = .ok value) →
        ∃ values, ((Step.forEach body).runUnder schedule context (.list items)).result
            = .ok (.list values)
          ∧ values.length = items.length
          ∧ ∀ i item, items[i]? = some item →
            ∃ value, values[i]? = some value ∧ body.branchResult schedule i item = .ok value)
      ∧ ((∃ i item e, items[i]? = some item ∧ body.branchResult schedule i item = .error e) →
        ∃ i item e, items[i]? = some item ∧ body.branchResult schedule i item = .error e
          ∧ ((Step.forEach body).runUnder schedule context (.list items)).result = .error e)
      ∧ ∀ slots, fillSlots (List.replicate items.length none) (body.branchEnds schedule items)
          = .ok slots → none ∉ slots)
    ∧ ∀ (step : Step) (context : Context) (input value : Value),
      (step.runUnder schedule context input).result = .ok value
        ↔ (step.run context input).result = .ok value := by
  constructor
  · intro body context items
    rw [runUnder_forEach_list]
    refine ⟨fun hok => ?_, fun hfails => ?_, fun slots hslots => none_not_mem_of_fillSlots hslots⟩
    · obtain ⟨values, hjoin, hvalues⟩ := joinBranches_branchEnds_of_all_ok hok
      exact ⟨values, by rw [hjoin]; rfl, hvalues⟩
    · obtain ⟨i, item, e, hitem, he, hjoin⟩ := joinBranches_branchEnds_of_error hfails
      exact ⟨i, item, e, hitem, he, by rw [hjoin]; rfl⟩
  · intro step context input value
    rw [← runUnder_inOrder]
    exact ⟨runUnder_result_mono step _ _ _ _ _, runUnder_result_mono step _ _ _ _ _⟩

/-- A leaf that takes texts only, and puts aside what it is given. -/
def keepText : Step := .leaf fun context input =>
  match input with
  | .text s => ⟨.ok (.text s), context.insert "kept" input⟩
  | other => ⟨.error (.wrongKind "keep" .text other.kind), context.insert "kept" other⟩

/-- Lists of lists, joined from the last branch to the first at both levels. The first list has an
element that is no text, and another one has too. -/
theorem completion_order_irrelevant_backwards :
    ((Step.forEach (.forEach (.pipe [keepText]))).runUnder .backwards Context.fresh
        (.list [.list [.text "a", .text "b"], .list [.text "c"]])).result
      = .ok (.list [.list [.record [("kept", .text "a")], .record [("kept", .text "b")]],
          .list [.record [("kept", .text "c")]]])
    ∧ ∃ i item e, [Value.unit, .text "a", .list []][i]? = some item
      ∧ keepText.branchResult .backwards i item = .error e
      ∧ ((Step.forEach keepText).runUnder .backwards Context.fresh
          (.list [.unit, .text "a", .list []])).result = .error e :=
  ⟨((completion_order_irrelevant .backwards).2 _ _ _ _).mpr rfl,
    ((completion_order_irrelevant .backwards).1 keepText Context.fresh _).2.1
      ⟨0, .unit, _, rfl, rfl⟩⟩

end Step

end CheckScript
