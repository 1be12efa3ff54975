import CheckScript.Proofs.Dict.Bindings
import CheckScript.Proofs.Script.Scoping
import CheckScript.Proofs.Tests.Verdicts

/-!
# Canonical values throughout a run

Records that are made from dictionaries have their fields in order, and no command puts a record
together in another way. So a script of built-in commands that is run on a canonical value has a
canonical result (`canonical_of_runScript`): every step hands on canonical values, and leaves only
such in its context (`Step.MakesCanonical`).
-/

namespace CheckScript

/-! ## Records -/

namespace Value

theorem canonicalItems_iff {items : List Value} :
    CanonicalItems items ↔ ∀ item ∈ items, item.Canonical := by
  induction items with
  | nil => simp [CanonicalItems]
  | cons item items ih => rw [CanonicalItems, ih, List.forall_mem_cons]

theorem canonicalFields_iff {fields : List (String × Value)} :
    CanonicalFields fields ↔ ∀ field ∈ fields, field.2.Canonical := by
  induction fields with
  | nil => simp [CanonicalFields]
  | cons field fields ih => rw [CanonicalFields, ih, List.forall_mem_cons]

theorem canonical_list_iff {items : List Value} :
    (Value.list items).Canonical ↔ ∀ item ∈ items, item.Canonical := by
  rw [Canonical, canonicalItems_iff]

theorem canonical_ofDict_iff {dict : Dict Value} :
    (ofDict dict).Canonical ↔ ∀ key value, dict.get? key = some value → value.Canonical := by
  rw [ofDict, Canonical, canonicalFields_iff]
  constructor
  · rintro ⟨-, hfields⟩ key value hget
    exact hfields _ (Dict.get?_eq_some_iff_mem.mp hget)
  · intro h
    exact ⟨dict.ascending, fun field hfield => h _ _ (Dict.get?_eq_some_iff_mem.mpr hfield)⟩

theorem canonical_ofDict_ofList {pairs : List (String × Value)}
    (h : ∀ pair ∈ pairs, pair.2.Canonical) : (ofDict (Dict.ofList pairs)).Canonical :=
  canonical_ofDict_iff.mpr fun _ _ hget => h _ (Dict.get?_ofList_eq_some_iff.mp hget).mem

end Value

/-! ## Steps -/

namespace Step

/-- In a context with canonical values and on a canonical input, the step gives a canonical value,
if it gives one, and leaves canonical values in the context. -/
def MakesCanonical (step : Step) : Prop :=
  ∀ schedule context input, context.toValue.Canonical → input.Canonical →
    (∀ value, (step.runUnder schedule context input).result = .ok value → value.Canonical)
      ∧ (step.runUnder schedule context input).context.toValue.Canonical

theorem canonical_fresh : Context.fresh.toValue.Canonical :=
  Value.canonical_ofDict_iff.mpr fun _ _ hget => nomatch hget

theorem canonical_pipeResult {context : Context} {value : Value}
    (hcontext : context.toValue.Canonical) (hvalue : value.Canonical) :
    (pipeResult context value).Canonical := by
  unfold pipeResult
  split
  · exact hvalue
  · exact hcontext

theorem makesCanonical_leaf {act : Action}
    (h : ∀ context input, context.toValue.Canonical → input.Canonical →
      (∀ value, (act context input).result = .ok value → value.Canonical)
        ∧ (act context input).context.toValue.Canonical) :
    (Step.leaf act).MakesCanonical := by
  intro schedule context input hcontext hinput
  rw [runUnder_leaf]
  exact h context input hcontext hinput

theorem makesCanonical_attempt {f : Value → Except RuntimeError Value}
    (h : ∀ input value, input.Canonical → f input = .ok value → value.Canonical) :
    (Step.attempt f).MakesCanonical :=
  makesCanonical_leaf fun _ input hcontext hinput =>
    ⟨fun value hvalue => h input value hinput hvalue, hcontext⟩

theorem canonical_of_stateUnder {steps : List Step} (h : ∀ step ∈ steps, step.MakesCanonical)
    {schedule : Schedule} {index : Nat} {context : Context} {input : Value}
    {state : Context × Value} (hcontext : context.toValue.Canonical) (hinput : input.Canonical)
    (hrun : stateUnder steps schedule index context input = .ok state) :
    state.1.toValue.Canonical ∧ state.2.Canonical := by
  induction steps generalizing index context input with
  | nil =>
    rw [stateUnder_nil] at hrun
    cases hrun
    exact ⟨hcontext, hinput⟩
  | cons step steps ih =>
    rw [stateUnder_cons, bind_eq_ok_iff] at hrun
    obtain ⟨output, houtput, hrest⟩ := hrun
    obtain ⟨hvalue, hleft⟩ := h step List.mem_cons_self (schedule.inside index) _ _ hcontext hinput
    exact ih (fun s hs => h s (List.mem_cons_of_mem _ hs)) hleft (hvalue output houtput) hrest

/-- **A pipe of steps that make canonical values makes canonical values.** -/
theorem makesCanonical_pipe {steps : List Step} (h : ∀ step ∈ steps, step.MakesCanonical) :
    (Step.pipe steps).MakesCanonical := by
  intro schedule context input hcontext hinput
  rw [runUnder_pipe]
  refine ⟨fun value hvalue => ?_, hcontext⟩
  obtain ⟨state, hstate, rfl⟩ := map_eq_ok_iff.mp hvalue
  obtain ⟨hheld, houtput⟩ := canonical_of_stateUnder h canonical_fresh hinput hstate
  exact canonical_pipeResult hheld houtput

/-- **A step for each element makes a canonical list if its body makes canonical values.** -/
theorem makesCanonical_forEach {body : Step} (h : body.MakesCanonical) :
    (Step.forEach body).MakesCanonical := by
  intro schedule context input hcontext hinput
  obtain ⟨items, rfl⟩ | hother := list_or_other input
  · rw [runUnder_forEach_list]
    refine ⟨fun value hvalue => ?_, hcontext⟩
    obtain ⟨values, hjoin, rfl⟩ := map_eq_ok_iff.mp hvalue
    obtain ⟨hlength, hbranches⟩ := joinBranches_branchEnds_eq_ok_iff.mp hjoin
    refine Value.canonical_list_iff.mpr fun result hresult => ?_
    obtain ⟨i, hi, rfl⟩ := List.getElem_of_mem hresult
    have hi' : i < items.length := hlength ▸ hi
    have hitem := Value.canonical_list_iff.mp hinput items[i] (List.getElem_mem hi')
    have hbranch := hbranches i _ _ (List.getElem?_eq_getElem hi') (List.getElem?_eq_getElem hi)
    exact (h (schedule.inside i) Context.fresh _ canonical_fresh hitem).1 _ hbranch
  · rw [runUnder_forEach_other body _ _ hother]
    exact ⟨fun value hvalue => (nomatch hvalue), hcontext⟩

end Step

/-! ## Commands -/

namespace Command

/-- A command on texts that answers with canonical values. -/
theorem makesCanonical_expectText {name : String} {f : String → Except RuntimeError Value}
    (h : ∀ text value, f text = .ok value → value.Canonical) :
    (Step.attempt fun input => expectText name input >>= f).MakesCanonical := by
  refine Step.makesCanonical_attempt fun input value _ hvalue => ?_
  cases input with
  | text s => exact h s value hvalue
  | unit => cases hvalue
  | list items => cases hvalue
  | record fields => cases hvalue

theorem makesCanonical_load {argument : Option String} {step : Step}
    (h : load argument = .ok step) : step.MakesCanonical := by
  obtain ⟨key, hkey⟩ := ok_of_requireArgument_bind h
  cases hkey
  refine Step.makesCanonical_leaf fun context input hcontext _ => ⟨fun value hvalue => ?_, hcontext⟩
  cases hvalue
  cases hget : context.get? key with
  | none => simp [Value.Canonical]
  | some saved => exact Value.canonical_ofDict_iff.mp hcontext key saved hget

theorem makesCanonical_save {argument : Option String} {step : Step}
    (h : save argument = .ok step) : step.MakesCanonical := by
  obtain ⟨key, hkey⟩ := ok_of_requireArgument_bind h
  cases hkey
  refine Step.makesCanonical_leaf fun context input hcontext hinput => ⟨fun value hvalue => ?_, ?_⟩
  · cases hvalue
    exact hinput
  · refine Value.canonical_ofDict_iff.mpr fun other value hget => ?_
    rcases Dict.eq_or_get?_of_insert hget with heq | hget
    · cases heq
      exact hinput
    · exact Value.canonical_ofDict_iff.mp hcontext other value hget

theorem makesCanonical_template {argument : Option String} {step : Step}
    (h : template argument = .ok step) : step.MakesCanonical := by
  obtain ⟨text, htext⟩ := ok_of_requireArgument_bind h
  cases htext
  refine Step.makesCanonical_leaf fun context input hcontext _ => ⟨fun value hvalue => ?_, hcontext⟩
  cases hvalue
  simp [Value.Canonical]

theorem makesCanonical_join {argument : Option String} {step : Step}
    (h : join argument = .ok step) : step.MakesCanonical := by
  cases h
  refine Step.makesCanonical_attempt fun input value _ hvalue => ?_
  obtain ⟨items, -, hitems⟩ := bind_eq_ok_iff.mp hvalue
  cases hitems
  simp [Value.Canonical]

theorem canonical_groupValue (found : Pattern.Match) (text : List Char) (group : Nat) :
    (groupValue found text group).Canonical := by
  unfold groupValue
  split <;> simp [Value.Canonical]

theorem canonical_extracted (pattern : Pattern) (text : List Char) (found : Pattern.Match) :
    (extracted pattern text found).Canonical := by
  unfold extracted
  split
  · split
    · exact canonical_groupValue _ _ _
    · exact canonical_groupValue _ _ _
    · refine Value.canonical_list_iff.mpr fun item hitem => ?_
      obtain ⟨i, -, rfl⟩ := List.mem_map.mp hitem
      exact canonical_groupValue _ _ _
  · refine Value.canonical_ofDict_ofList fun pair hpair => ?_
    obtain ⟨group, -, rfl⟩ := List.mem_map.mp hpair
    exact canonical_groupValue _ _ _

theorem makesCanonical_extract {argument : Option String} {step : Step}
    (h : extract argument = .ok step) : step.MakesCanonical := by
  obtain ⟨written, hwritten⟩ := ok_of_requireArgument_bind h
  split at hwritten
  · cases hwritten
  · cases hwritten
    refine makesCanonical_expectText fun text value hvalue => ?_
    cases hvalue
    split
    · exact canonical_extracted _ _ _
    · simp [Value.Canonical]

theorem makesCanonical_parseDate {argument : Option String} {step : Step}
    (h : parseDate argument = .ok step) : step.MakesCanonical := by
  cases h
  refine makesCanonical_expectText fun text value hvalue => ?_
  dsimp only at hvalue
  split at hvalue
  · cases hvalue
    simp [Value.Canonical]
  · cases hvalue

end Command

theorem makesCanonical_of_builtin {name : String} {command : Command}
    (hget : Registry.builtin.get? name = some command) {argument : Option String} {step : Step}
    (hbuild : command.build argument = .ok step) : step.MakesCanonical := by
  have hcases := builtin_cases hget
  simp only [List.mem_cons, Prod.mk.injEq, List.not_mem_nil, or_false] at hcases
  rcases hcases with ⟨-, rfl⟩ | ⟨-, rfl⟩ | ⟨-, rfl⟩ | ⟨-, rfl⟩ | ⟨-, rfl⟩ | ⟨-, rfl⟩ | ⟨-, rfl⟩
    | ⟨-, rfl⟩ | ⟨-, rfl⟩
  · exact Command.makesCanonical_load hbuild
  · exact Command.makesCanonical_save hbuild
  · exact Command.makesCanonical_template hbuild
  -- trim
  · cases hbuild
    refine Command.makesCanonical_expectText fun text value hvalue => ?_
    cases hvalue
    simp [Value.Canonical]
  · exact Command.makesCanonical_join hbuild
  -- split
  · cases hbuild
    refine Command.makesCanonical_expectText fun text value hvalue => ?_
    cases hvalue
    refine Value.canonical_list_iff.mpr fun item hitem => ?_
    obtain ⟨piece, -, rfl⟩ := List.mem_map.mp hitem
    simp [Value.Canonical]
  · exact Command.makesCanonical_parseDate hbuild
  · exact Command.makesCanonical_extract hbuild
  -- echo
  · cases hbuild
    refine Step.makesCanonical_leaf fun context input hcontext _ =>
      ⟨fun value hvalue => ?_, hcontext⟩
    cases hvalue
    cases argument <;> simp [Value.Canonical]

/-! ## Scripts -/

theorem makesCanonical_compileNodes (nodes : Block) :
    ∀ step ∈ (compileNodes .builtin nodes).steps, step.MakesCanonical := by
  induction nodes using Block.induction with
  | nil => simp
  | line l rest ih =>
    intro step hstep
    rw [compileNodes_line] at hstep
    rcases List.mem_append.mp hstep with hstep | hstep
    · obtain ⟨-, hline⟩ := mem_lineSteps hstep
      obtain ⟨command, hget, hbuild⟩ := exists_build_of_compileLine hline
      exact makesCanonical_of_builtin hget hbuild
    · exact ih step hstep
  | block inner rest ihInner ih =>
    intro step hstep
    rw [compileNodes_block] at hstep
    rcases List.mem_append.mp hstep with hstep | hstep
    · split at hstep
      · rw [List.mem_singleton.mp hstep]
        exact Step.makesCanonical_forEach (Step.makesCanonical_pipe ihInner)
      · simp at hstep
    · exact ih step hstep

/-- **A script of built-in commands that is run on a canonical value has a canonical result, if it
has one.** -/
theorem canonical_of_runScript {source : String} {input value : Value} (hinput : input.Canonical)
    (h : runScript source .builtin input = .ok value) : value.Canonical := by
  cases hcompile : compile source .builtin with
  | error e =>
    rw [runScript_of_compile_eq_error hcompile] at h
    cases h
  | ok step =>
    rw [runScript_of_compile_eq_ok hcompile] at h
    obtain ⟨-, -, rfl⟩ := compile_eq_ok_iff.mp hcompile
    have hroot := Step.makesCanonical_pipe (makesCanonical_compileNodes (rootBlock source))
    have hvalue := (hroot .inOrder Context.fresh input Step.canonical_fresh hinput).1
    rw [Step.runUnder_inOrder] at hvalue
    cases hresult : (Step.pipe (compileNodes .builtin (rootBlock source)).steps).result input with
    | error e =>
      rw [hresult] at h
      cases h
    | ok output =>
      rw [hresult] at h
      cases h
      exact hvalue _ hresult

end CheckScript
