import CheckScript.Proofs.Script.Scoping

/-!
# Why scripts fail

A script of built-in commands fails for few reasons: a line is given a value of another kind than
its command works on, `parseDate` is given a text that is no date, or a sub-block is given something
other than a list (`Block.FailsWith`). There is no other way, however deep the failing run is: pipes
and steps for each element hand on the errors of their steps as they are, whatever the order in
which branches end (`Step.FailsOnly`), and of their own have one error only.

What a command works on is fixed by its name (`Command.wants`), so whether a node refuses a value
can be told before it is run (`Node.Refuses`).

## Main statements

* `fits_of_builtin`: what the step of a command refuses, and the errors that it may fail with.
* `failsOnly_compileNodes`: the errors of the steps of a block.
* `runtime_errors_known`: the errors of a script, and scripts that have none.
-/

namespace CheckScript

theorem Value.kind_eq_list_iff {value : Value} :
    value.kind = .list ↔ ∃ items, value = .list items := by
  cases value with
  | list items => exact ⟨fun _ => ⟨items, rfl⟩, fun _ => rfl⟩
  | unit => simp [Value.kind]
  | text s => simp [Value.kind]
  | record fields => simp [Value.kind]

/-! ## Steps and the errors they may fail with -/

namespace Step

/-- Whatever the step is run on, and in whatever order branches end, its errors are among these. -/
def FailsOnly (errors : RuntimeError → Prop) (step : Step) : Prop :=
  ∀ schedule context input e,
    (step.runUnder schedule context input).result = .error e → errors e

variable {errors : RuntimeError → Prop}

theorem FailsOnly.mono {more : RuntimeError → Prop} {step : Step} (h : step.FailsOnly errors)
    (hmore : ∀ e, errors e → more e) : step.FailsOnly more :=
  fun schedule context input e he => hmore e (h schedule context input e he)

theorem failsOnly_leaf {act : Action}
    (h : ∀ context input e, (act context input).result = .error e → errors e) :
    (Step.leaf act).FailsOnly errors := by
  intro schedule context input e he
  rw [runUnder_leaf] at he
  exact h context input e he

/-- **A pipe fails only with an error of one of its steps.** -/
theorem failsOnly_pipe {steps : List Step} (h : ∀ step ∈ steps, step.FailsOnly errors) :
    (Step.pipe steps).FailsOnly errors := by
  intro schedule context input e he
  rw [runUnder_pipe, map_eq_error_iff] at he
  generalize Context.fresh = held, 0 = index at he
  induction steps generalizing index held input with
  | nil =>
    rw [stateUnder_nil] at he
    cases he
  | cons step steps ih =>
    rw [stateUnder_cons, bind_eq_error_iff] at he
    rcases he with he | ⟨output, -, he⟩
    · exact h step List.mem_cons_self _ _ _ e he
    · exact ih (fun s hs => h s (List.mem_cons_of_mem _ hs)) _ _ _ he

/-- **A step for each element fails with an error of a branch, or because it is not given a
list.** -/
theorem failsOnly_forEach {body : Step} (h : body.FailsOnly errors)
    (hlist : ∀ got, got ≠ .list → errors (.expectedList got)) :
    (Step.forEach body).FailsOnly errors := by
  intro schedule context input e he
  obtain ⟨items, rfl⟩ | hother := list_or_other input
  · rw [runUnder_forEach_list, map_eq_error_iff] at he
    obtain ⟨i, item, -, hbranch⟩ := branchResult_of_joinBranches_eq_error he
    exact h _ _ _ e hbranch
  · rw [runUnder_forEach_other body _ _ hother] at he
    cases he
    refine hlist _ fun hkind => ?_
    obtain ⟨items, hitems⟩ := Value.kind_eq_list_iff.mp hkind
    exact hother items hitems

end Step

/-! ## Commands -/

namespace Command

/-- The kind of value that a command works on, if it does not work on every one. -/
def wants (name : String) : Option Value.Kind :=
  if name ∈ ["split", "trim", "extract", "parseDate"] then some .text
  else if name = "join" then some .list
  else none

/-- Why the step of a command fails. -/
inductive FailsWith : String → RuntimeError → Prop
  | wrongKind {name : String} {expected got : Value.Kind} :
    wants name = some expected → got ≠ expected →
    FailsWith name (.wrongKind name expected got)
  | noDate (text : String) :
    FailsWith "parseDate" (.failed "parseDate" ("cannot parse '" ++ text ++ "' as a date"))

/-- A command that works on every value has no errors. -/
theorem not_failsWith_of_wants_none {name : String} (h : wants name = none) (e : RuntimeError) :
    ¬FailsWith name e := by
  intro hfails
  cases hfails with
  | wrongKind hwants _ =>
    rw [h] at hwants
    cases hwants
  | noDate _ => cases h

/-- No error is that of a lost branch or of a host program. -/
theorem FailsWith.not_foreign {name : String} {e : RuntimeError} (h : FailsWith name e) :
    (∀ reason, e ≠ .branchLost reason) ∧ ∀ words, e ≠ .custom words := by
  cases h <;> simp

/-- The step does what a step of the command may do with values that it does not work on, and fails
for no other reasons than the command. -/
structure Fits (name : String) (step : Step) : Prop where
  refuses : ∀ expected, wants name = some expected → ∀ schedule context input,
    input.kind ≠ expected →
    (step.runUnder schedule context input).result
      = .error (.wrongKind name expected input.kind)
  failsOnly : step.FailsOnly (FailsWith name)

theorem expectText_of_kind_ne (name : String) {input : Value} (h : input.kind ≠ .text) :
    expectText name input = .error (.wrongKind name .text input.kind) := by
  cases input with
  | text s => exact absurd rfl h
  | unit => rfl
  | list items => rfl
  | record fields => rfl

theorem expectList_of_kind_ne (name : String) {input : Value} (h : input.kind ≠ .list) :
    expectList name input = .error (.wrongKind name .list input.kind) := by
  cases input with
  | list items => exact absurd rfl h
  | unit => rfl
  | text s => rfl
  | record fields => rfl

/-- A step that refuses what its command does not work on, and else fails for a reason of the
command, fits the command. -/
theorem fits_attempt {name : String} {expected : Value.Kind} {f : Value → Except RuntimeError Value}
    (hwants : wants name = some expected)
    (hrefuses : ∀ input, input.kind ≠ expected →
      f input = .error (.wrongKind name expected input.kind))
    (hworks : ∀ input e, input.kind = expected → f input = .error e → FailsWith name e) :
    Fits name (.attempt f) where
  refuses := by
    intro other hother schedule context input hkind
    obtain rfl : expected = other := Option.some.inj (hwants.symm.trans hother)
    rw [Step.attempt, Step.runUnder_leaf]
    exact hrefuses input hkind
  failsOnly := Step.failsOnly_leaf fun _ input e he => by
    by_cases hkind : input.kind = expected
    · exact hworks input e hkind he
    · obtain rfl := Except.error.inj ((hrefuses input hkind).symm.trans he)
      exact .wrongKind hwants hkind

/-- A command on texts fails on others, and otherwise for what it then does with the text. -/
theorem fits_expectText {name : String} {f : String → Except RuntimeError Value}
    (hwants : wants name = some .text) (h : ∀ text e, f text = .error e → FailsWith name e) :
    Fits name (.attempt fun input => expectText name input >>= f) := by
  refine fits_attempt hwants (fun input hkind => ?_) fun input e hkind he => ?_
  · rw [expectText_of_kind_ne name hkind]
    rfl
  · cases input with
    | text s => exact h s e he
    | unit => cases hkind
    | list items => cases hkind
    | record fields => cases hkind

/-- A step without errors fits a command that works on everything. -/
theorem fits_of_ok {name : String} {act : Action} (hwants : wants name = none)
    (h : ∀ context input, ∃ value, (act context input).result = .ok value) :
    Fits name (.leaf act) where
  refuses := by
    intro expected hexpected
    rw [hwants] at hexpected
    cases hexpected
  failsOnly := Step.failsOnly_leaf fun context input e he => by
    obtain ⟨value, hvalue⟩ := h context input
    rw [hvalue] at he
    cases he

/-- A command that cannot do without an argument and then makes a step without errors. -/
theorem fits_of_requireArgument {name : String} {act : String → Action} {argument : Option String}
    {step : Step} (hwants : wants name = none)
    (h : ∀ given context input, ∃ value, (act given context input).result = .ok value)
    (hbuild : (requireArgument name argument >>= fun given => .ok (.leaf (act given))) = .ok step) :
    Fits name step := by
  obtain ⟨given, hgiven⟩ := ok_of_requireArgument_bind hbuild
  cases hgiven
  exact fits_of_ok hwants (h given)

theorem fits_extract {argument : Option String} {step : Step} (h : extract argument = .ok step) :
    Fits "extract" step := by
  obtain ⟨written, hwritten⟩ := ok_of_requireArgument_bind h
  split at hwritten
  · cases hwritten
  · cases hwritten
    exact fits_expectText (by decide) fun text e he => nomatch he

theorem fits_parseDate {argument : Option String} {step : Step}
    (h : parseDate argument = .ok step) : Fits "parseDate" step := by
  cases h
  refine fits_expectText (by decide) fun text e he => ?_
  dsimp only at he
  split at he
  · cases he
  · cases he
    exact .noDate _

theorem fits_join {argument : Option String} {step : Step} (h : join argument = .ok step) :
    Fits "join" step := by
  cases h
  have hwants : wants "join" = some .list := by decide
  refine fits_attempt hwants (fun input hkind => ?_) fun input e hkind he => ?_
  · rw [expectList_of_kind_ne "join" hkind]
    rfl
  · obtain ⟨items, rfl⟩ := Value.kind_eq_list_iff.mp hkind
    cases he

end Command

/-- **A step that a command of every script makes fits the command.** -/
theorem fits_of_builtin {name : String} {command : Command}
    (hget : Registry.builtin.get? name = some command) {argument : Option String} {step : Step}
    (hbuild : command.build argument = .ok step) : Command.Fits name step := by
  have hcases := builtin_cases hget
  simp only [List.mem_cons, Prod.mk.injEq, List.not_mem_nil, or_false] at hcases
  rcases hcases with ⟨rfl, rfl⟩ | ⟨rfl, rfl⟩ | ⟨rfl, rfl⟩ | ⟨rfl, rfl⟩ | ⟨rfl, rfl⟩ | ⟨rfl, rfl⟩
    | ⟨rfl, rfl⟩ | ⟨rfl, rfl⟩ | ⟨rfl, rfl⟩
  -- load, save and template
  · exact Command.fits_of_requireArgument (by decide) (fun _ _ _ => ⟨_, rfl⟩) hbuild
  · exact Command.fits_of_requireArgument (by decide) (fun _ _ _ => ⟨_, rfl⟩) hbuild
  · exact Command.fits_of_requireArgument (by decide) (fun _ _ _ => ⟨_, rfl⟩) hbuild
  -- trim
  · cases hbuild
    exact Command.fits_expectText (by decide) fun text e he => nomatch he
  · exact Command.fits_join hbuild
  -- split
  · cases hbuild
    exact Command.fits_expectText (by decide) fun text e he => nomatch he
  · exact Command.fits_parseDate hbuild
  · exact Command.fits_extract hbuild
  -- echo
  · cases hbuild
    exact Command.fits_of_ok (by decide) fun _ _ => ⟨_, rfl⟩

theorem fits_of_compileLine {l : Line} {step : Step} (h : compileLine .builtin l = .ok step) :
    Command.Fits l.command step := by
  obtain ⟨command, hget, hbuild⟩ := exists_build_of_compileLine h
  exact fits_of_builtin hget hbuild

/-! ## Blocks -/

namespace Block

/-- Why a block of built-in commands fails. -/
inductive FailsWith (block : Block) : RuntimeError → Prop
  /-- A line at any depth, not a comment, fails for a reason of its command. -/
  | line {l : Line} {e : RuntimeError} :
    l ∈ Block.lines block → l.isComment = false → Command.FailsWith l.command e →
    FailsWith block e
  /-- A sub-block is not given a list. -/
  | block {got : Value.Kind} :
    2 ≤ Block.depth block → got ≠ .list → FailsWith block (.expectedList got)

/-- A block that holds the lines of another one and is as deep has all of its reasons. -/
theorem FailsWith.mono {block more : Block} {e : RuntimeError} (h : block.FailsWith e)
    (hlines : Block.lines block ⊆ Block.lines more)
    (hdepth : Block.depth block ≤ Block.depth more) : more.FailsWith e := by
  cases h with
  | line hmem hcomment hcommand => exact .line (hlines hmem) hcomment hcommand
  | block htwo hgot => exact .block (htwo.trans hdepth) hgot

theorem FailsWith.not_foreign {block : Block} {e : RuntimeError} (h : block.FailsWith e) :
    (∀ reason, e ≠ .branchLost reason) ∧ ∀ words, e ≠ .custom words := by
  cases h with
  | line _ _ hcommand => exact hcommand.not_foreign
  | block _ _ => simp

theorem depth_le_cons (node : Node) (rest : Block) :
    Block.depth rest ≤ Block.depth (node :: rest) := by
  rw [Block.depth]
  exact Nat.le_max_right _ _

theorem depth_eq_one {nodes : Block} (h : ∀ inner, Node.block inner ∉ nodes) :
    Block.depth nodes = 1 := by
  induction nodes with
  | nil => rw [Block.depth]
  | cons node rest ih =>
    have hrest := ih fun inner hmem => h inner (List.mem_cons_of_mem _ hmem)
    cases node with
    | block inner => exact absurd List.mem_cons_self (h inner)
    | line l =>
      rw [Block.depth, Node.depth, hrest]
      rfl

end Block

/-- **The steps of a block fail for a reason of one of its lines, at any depth, or because one of
its sub-blocks is not given a list.** -/
theorem failsOnly_compileNodes (nodes : Block) :
    ∀ step ∈ (compileNodes .builtin nodes).steps, step.FailsOnly nodes.FailsWith := by
  induction nodes using Block.induction with
  | nil => simp
  | line l rest ih =>
    intro step hstep
    rw [compileNodes_line] at hstep
    rcases List.mem_append.mp hstep with hstep | hstep
    · obtain ⟨hcomment, hline⟩ := mem_lineSteps hstep
      exact (fits_of_compileLine hline).failsOnly.mono fun e he => .line (by simp) hcomment he
    · exact (ih step hstep).mono fun e he => he.mono (by simp) (Block.depth_le_cons _ _)
  | block inner rest ihInner ih =>
    have hdeeper : Block.depth inner < Block.depth (.block inner :: rest) :=
      Block.depth_lt_of_mem List.mem_cons_self
    intro step hstep
    rw [compileNodes_block] at hstep
    rcases List.mem_append.mp hstep with hstep | hstep
    · split at hstep
      · -- a sub-block has the errors of its branches, and one more of its own
        rw [List.mem_singleton.mp hstep]
        refine Step.failsOnly_forEach ((Step.failsOnly_pipe ihInner).mono fun e he => ?_) ?_
        · exact he.mono (by simp) hdeeper.le
        · exact fun got hgot => .block (Nat.lt_of_le_of_lt (Block.one_le_depth inner) hdeeper) hgot
      · simp at hstep
    · exact (ih step hstep).mono fun e he => he.mono (by simp) (Block.depth_le_cons _ _)

theorem failsWith_of_resultUnder (block : Block) {schedule : Schedule} {input : Value}
    {e : RuntimeError} (h : block.resultUnder schedule input = .error e) : block.FailsWith e :=
  Step.failsOnly_pipe (failsOnly_compileNodes block) schedule Context.fresh input e h

/-! ## Nodes that refuse what they are given -/

/-- The node fails with the error on values of the kind. -/
inductive Node.Refuses : Node → Value.Kind → RuntimeError → Prop
  | line {l : Line} {expected got : Value.Kind} :
    l.isComment = false → Command.wants l.command = some expected → got ≠ expected →
    Node.Refuses (.line l) got (.wrongKind l.command expected got)
  | block {inner : Block} {got : Value.Kind} :
    got ≠ .list → Node.Refuses (.block inner) got (.expectedList got)

theorem nodeUnder_of_refuses {node : Node} (hnone : NoErrors [node]) {value : Value}
    {e : RuntimeError} (h : node.Refuses value.kind e) (schedule : Schedule) (index : Nat)
    (context : Context) : nodeUnder node schedule index context value = .error e := by
  cases h with
  | @line l expected _ hcomment hwants hkind =>
    rcases nodeUnder_line_cases hnone schedule index context value with
      ⟨hcomment', -⟩ | ⟨step, -, hstep, hnode⟩
    · rw [hcomment] at hcomment'
      cases hcomment'
    · rw [hnode, (fits_of_compileLine hstep).refuses expected hwants _ _ _ hkind]
      rfl
  | @block inner _ hkind =>
    have hinner : NoErrors inner := fun l hl => hnone l (by simpa using hl)
    have hother : ∀ items, value ≠ .list items := fun items heq =>
      hkind (Value.kind_eq_list_iff.mpr ⟨items, heq⟩)
    rw [nodeUnder_block hinner, Block.resultsUnder]
    · rfl
    · exact hother

/-- **A block fails where it comes to a node that refuses what it is given.** -/
theorem resultUnder_of_refuses {before after : Block} {node : Node}
    (hnone : NoErrors (before ++ node :: after)) {schedule : Schedule} {input value : Value}
    {context : Context} (hrun : before.stateUnder schedule input = .ok (context, value))
    {e : RuntimeError} (h : node.Refuses value.kind e) :
    (before ++ node :: after).resultUnder schedule input = .error e := by
  rw [List.append_cons] at hnone ⊢
  have hnode := nodeUnder_of_refuses hnone.of_append.1.of_append.2 h schedule
    (compileNodes .builtin before).steps.length context
  have hstate : Block.stateUnder (before ++ [node]) schedule input = .error e := by
    rw [stateUnder_concat, hrun]
    exact hnode
  have hall : Block.stateUnder (before ++ [node] ++ after) schedule input = .error e := by
    rw [Block.stateUnder, steps_compileNodes_append, Step.stateUnder_append]
    show (Block.stateUnder (before ++ [node]) schedule input).bind _ = _
    rw [hstate]
    rfl
  rw [Block.resultUnder_eq, hall]
  rfl

/-! ## Scripts -/

/-- **The reasons for which scripts fail are known.** A script that compiles gives the result of its
root. Whatever its input, and in whatever order branches end, it fails only because a line of it,
not a comment, was given a value of another kind than its command works on, because such a line with
`parseDate` was given a text that is no date, or because a sub-block of it, which has to be there,
was not given a list; never because of a lost branch or an error of a host program. A block of it
that comes to a line or a sub-block with a value that this one refuses does fail, and says so. A
script without sub-blocks whose commands work on everything has a result for every input. -/
theorem runtime_errors_known (source : String) (h : Compiles source .builtin) :
    (∀ input, runScript source .builtin input
      = ((rootBlock source).resultUnder .inOrder input).mapError .runtime)
    ∧ (∀ schedule input e, (rootBlock source).resultUnder schedule input = .error e →
      (rootBlock source).FailsWith e
        ∧ (∀ reason, e ≠ .branchLost reason) ∧ ∀ words, e ≠ .custom words)
    ∧ (∀ before node after, Block.Within (before ++ node :: after) (rootBlock source) →
      ∀ schedule input context value e,
        Block.stateUnder before schedule input = .ok (context, value) → node.Refuses value.kind e →
        Block.resultUnder (before ++ node :: after) schedule input = .error e)
    ∧ ((∀ inner, Node.block inner ∉ rootBlock source) →
      (∀ l ∈ sourceLines source, l.isComment = false →
        l.command ∈ ["echo", "save", "load", "template"]) →
      ∀ schedule input, ∃ value, (rootBlock source).resultUnder schedule input = .ok value) := by
  refine ⟨runScript_eq_resultUnder h, fun schedule input e he => ?_,
    fun before node after hwithin schedule input context value e hrun hrefuses => ?_,
    fun hflat hcommands schedule input => ?_⟩
  · have hfails := failsWith_of_resultUnder _ he
    exact ⟨hfails, hfails.not_foreign⟩
  · exact resultUnder_of_refuses (noErrors_of_within h hwithin) hrun hrefuses
  · have htotal : ∀ name ∈ ["echo", "save", "load", "template"], Command.wants name = none := by
      decide
    cases hrun : (rootBlock source).resultUnder schedule input with
    | ok value => exact ⟨value, rfl⟩
    | error e =>
      cases failsWith_of_resultUnder _ hrun with
      | line hmem hcomment hcommand =>
        rw [lines_rootBlock (compiles_iff.mp h).1] at hmem
        exact absurd hcommand
          (Command.not_failsWith_of_wants_none (htotal _ (hcommands _ hmem hcomment)) e)
      | block htwo _ =>
        rw [Block.depth_eq_one hflat] at htwo
        omega

/-- A script with a sub-block that is not given a list. -/
def greetingSource : String := "echo hi\n  trim"

theorem rootBlock_greetingSource : rootBlock greetingSource
    = [.line ⟨"echo hi", 0, ⟨0, 7⟩⟩] ++ .block [.line ⟨"trim", 1, ⟨10, 14⟩⟩] :: [] := by
  refine rootBlock_of_canonical (.inr ⟨_, _, rfl, ?_⟩) (by decide)
  refine .block (by decide) .nil ?_ .nil
  rintro next more ⟨⟩

/-- Each of the reasons: a line that wants a text, a date that is none in the branch that ends
first, a sub-block that is given a text. And a script that cannot fail. -/
theorem runtime_errors_known_each :
    (rootBlock "split ,\n  parseDate").FailsWith (.wrongKind "split" .text .unit)
    ∧ (rootBlock "split ,\n  parseDate").FailsWith
      (.failed "parseDate" "cannot parse 'y' as a date")
    ∧ (rootBlock greetingSource).resultUnder .backwards .unit = .error (.expectedList .text)
    ∧ ∀ input, ∃ value, (rootBlock "# note\nsave a\nload b").resultUnder .backwards input
        = .ok value := by
  have hsplit := (runtime_errors_known "split ,\n  parseDate" (by decide)).2.1 .backwards
  have hgreeting := (runtime_errors_known greetingSource (by decide)).2.2.1
  rw [rootBlock_greetingSource] at hgreeting
  refine ⟨(hsplit .unit _ (by decide +kernel)).1, (hsplit (.text "x,y") _ (by decide +kernel)).1,
    ?_, ?_⟩
  · rw [rootBlock_greetingSource]
    exact hgreeting _ _ _ .self .backwards .unit Context.fresh (.text "hi") _ (by decide +kernel)
      (.block (by decide))
  · have hroot : rootBlock "# note\nsave a\nload b" = [.line ⟨"# note", 0, ⟨0, 6⟩⟩,
        .line ⟨"save a", 0, ⟨7, 13⟩⟩, .line ⟨"load b", 0, ⟨14, 20⟩⟩] :=
      rootBlock_of_canonical (.inr ⟨_, _, rfl, .line rfl (.line rfl .nil)⟩) (by decide)
    have htotal := (runtime_errors_known "# note\nsave a\nload b" (by decide)).2.2.2
    exact htotal (by simp [hroot]) (by decide) .backwards

end CheckScript
