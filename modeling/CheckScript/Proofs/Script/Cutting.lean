import CheckScript.Proofs.Script.Comments
import CheckScript.Proofs.Script.Scoping
import CheckScript.Proofs.Step.Fusion

/-!
# Cutting sub-blocks

A sub-block is a pipe that is run for each element, so it can be cut in two that stand one behind
the other: the elements are then taken through the first part all together, and what came out
through the second. Only a `save` in the first part would be in the way, as the result of that part
would then be its context.

Sub-blocks that are next to each other need not be at one level: the second one may be shallower, or
a comment at the level around both may stand between them. `Block.LessComments` leaves such comments
out of the tree.

## Main statements

* `pipesAgree_of_cut`: the steps of a tree and of the tree with its sub-blocks cut.
* `map_fusion`: fusion of steps for each element, and of the sub-blocks of a script.
-/

namespace CheckScript

/-! ## Trees with cuts -/

/-- The second block is the first one with sub-blocks cut in parts, at any depth and each any number
of times. What is cut off in front has no `save` line of its own. -/
inductive Block.Cut : Block → Block → Prop
  | nil : Block.Cut [] []
  | line {l m : Line} {xs ys : Block} :
    SameWords l m → Block.Cut xs ys → Block.Cut (.line l :: xs) (.line m :: ys)
  | block {inner inner' xs ys : Block} :
    Block.Cut inner inner' → Block.Cut xs ys →
    Block.Cut (.block inner :: xs) (.block inner' :: ys)
  /-- The sub-block that is left behind the cut may be cut again. -/
  | cut {first first' second xs ys : Block} :
    ¬Block.HasSave first → Block.Cut first first' → Block.Cut (.block second :: xs) ys →
    Block.Cut (.block (first ++ second) :: xs) (.block first' :: ys)

namespace Block.Cut

variable {xs ys : Block}

/-- A tree with cuts has the same lines. -/
theorem lines (h : Block.Cut xs ys) :
    List.Forall₂ SameWords (Block.lines xs) (Block.lines ys) := by
  induction h with
  | nil => exact .nil
  | line hlm _ ih =>
    simp only [Block.lines_cons, Node.lines_line, List.cons_append, List.nil_append]
    exact .cons hlm ih
  | block _ _ ihInner ih =>
    simp only [Block.lines_cons, Node.lines_block]
    exact List.rel_append ihInner ih
  | cut _ _ _ ihFirst ih =>
    simp only [Block.lines_cons, Node.lines_block, Block.lines_append, List.append_assoc] at ih ⊢
    exact List.rel_append ihFirst ih

theorem noErrors (h : Block.Cut xs ys) (herrors : NoErrors xs) : NoErrors ys := by
  have hnil := flatMap_lineErrors_eq_nil_iff .builtin h.lines fun _ _ hlm => hlm
  exact List.flatMap_eq_nil_iff.mp (hnil.mp (List.flatMap_eq_nil_iff.mpr herrors))

end Block.Cut

/-! ## Steps -/

/-- The steps of a block without a `save` of its own leave its context alone. -/
theorem keepsContext_of_not_hasSave {nodes : Block} (h : ¬nodes.HasSave) :
    ∀ step ∈ (compileNodes .builtin nodes).steps, step.KeepsContext :=
  keepsContext_of_no_save fun line hmem hcomment hcommand => h ⟨line, hmem, hcomment, hcommand⟩

theorem NoErrors.steps_block {inner rest : Block} (h : NoErrors (.block inner :: rest)) :
    NoErrors inner ∧ NoErrors rest
      ∧ (compileNodes .builtin (.block inner :: rest)).steps
        = .forEach (.pipe (compileNodes .builtin inner).steps)
          :: (compileNodes .builtin rest).steps := by
  have hparts : NoErrors inner ∧ NoErrors rest := by
    rw [NoErrors, Block.lines_cons, Node.lines_block, List.forall_mem_append] at h
    exact h
  refine ⟨hparts.1, hparts.2, ?_⟩
  rw [compileNodes_block, if_pos hparts.1.errors_eq_nil]
  rfl

/-- **Cutting sub-blocks changes nothing but the errors that a run may fail with.** -/
theorem pipesAgree_of_cut {xs ys : Block} (h : Block.Cut xs ys) (herrors : NoErrors xs) :
    Step.PipesAgree (compileNodes .builtin xs).steps (compileNodes .builtin ys).steps := by
  induction h with
  | nil => exact .refl _
  | @line l m xs ys hlm hcut ih =>
    have hrest : NoErrors xs := (@NoErrors.of_append [.line l] xs herrors).2
    rw [compileNodes_line, compileNodes_line, lineSteps_eq hlm]
    exact (ih hrest).append_left _
  | @block inner inner' xs ys hinner hcut ihInner ih =>
    obtain ⟨hnone, hrest, hsteps⟩ := herrors.steps_block
    obtain ⟨-, -, hsteps'⟩ := ((Block.Cut.block hinner hcut).noErrors herrors).steps_block
    rw [hsteps, hsteps']
    exact .forEach (ihInner hnone) (ih hrest)
  | @cut first first' second xs ys hsave hfirst hcut ihFirst ih =>
    obtain ⟨hnone, hrest, hsteps⟩ := herrors.steps_block
    obtain ⟨-, -, hsteps'⟩ := ((Block.Cut.cut hsave hfirst hcut).noErrors herrors).steps_block
    obtain ⟨hnoneFirst, hnoneSecond⟩ := hnone.of_append
    -- first the pipe is cut, then the parts are: what is left behind is a block of its own again
    have hsecond : NoErrors (.block second :: xs) := by
      rw [NoErrors, Block.lines_cons, Node.lines_block, List.forall_mem_append]
      exact ⟨hnoneSecond, hrest⟩
    have hbehind := ih hsecond
    rw [hsecond.steps_block.2.2] at hbehind
    rw [hsteps, hsteps', steps_compileNodes_append]
    exact (Step.pipesAgree_forEach_append (keepsContext_of_not_hasSave hsave) _ _).trans
      (.forEach (ihFirst hnoneFirst) hbehind)

/-! ## Scripts -/

variable {s t : String} {tree : Block}

/-- A source whose tree is the cut one, but for comments, compiles as well. -/
theorem compiles_of_cut (hs : Compiles s .builtin) (ht : Parses t)
    (hcut : Block.Cut (rootBlock s) tree) (hcomments : Block.LessComments (rootBlock t) tree) :
    Compiles t .builtin := by
  have hnone := parses_iff.mp ht
  refine compiles_iff.mpr ⟨hnone, ?_⟩
  have herrors := (hcut.noErrors (noErrors_of_within hs .self)).errors_eq_nil
  rw [← compileNodes_lessComments hcomments, errors_compileNodes, lines_rootBlock hnone] at herrors
  exact herrors

theorem sameUpToError_of_cut (hs : Compiles s .builtin)
    (hcut : Block.Cut (rootBlock s) tree) (hcomments : Block.LessComments (rootBlock t) tree)
    (schedule schedule' : Schedule) (input : Value) :
    SameUpToError ((rootBlock s).resultUnder schedule input)
      ((rootBlock t).resultUnder schedule' input) := by
  have hagree := pipesAgree_of_cut hcut (noErrors_of_within hs .self)
  refine Step.sameUpToError_runUnder_of_run ?_ schedule schedule'
  rw [Step.run, Step.run, compileNodes_lessComments hcomments]
  exact hagree Context.fresh input

/-- **Steps for each element can be fused and cut.** If some steps leave their context alone, then a
pipe of them and of further steps, run for each element, gives the same as the two parts run for
each element one after the other: the same value, or both fail. So if a script compiles, then
another one compiles too and gives the same if its tree, comments aside, is that of the first one
with sub-blocks cut in parts, where what is cut off in front saves nothing. None of this depends on
the order in which branches end. -/
theorem map_fusion :
    (∀ fs gs : List Step, (∀ step ∈ fs, step.KeepsContext) →
      ∀ schedule schedule' context input,
        SameUpToError ((Step.forEach (.pipe (fs ++ gs))).runUnder schedule context input).result
          ((Step.pipe [.forEach (.pipe fs), .forEach (.pipe gs)]).runUnder schedule' context
            input).result)
    ∧ ∀ s t tree, Compiles s .builtin → Parses t → Block.Cut (rootBlock s) tree →
        Block.LessComments (rootBlock t) tree →
        Compiles t .builtin
        ∧ (∀ input, SameUpToError (runScript s .builtin input) (runScript t .builtin input))
        ∧ ∀ schedule schedule' input,
          SameUpToError ((rootBlock s).resultUnder schedule input)
            ((rootBlock t).resultUnder schedule' input) := by
  constructor
  · intro fs gs hfs schedule schedule' context input
    refine Step.sameUpToError_runUnder_of_run ?_ schedule schedule'
    rw [Step.run_forEach_result, ← Step.runPipe_sole_forEach, Step.run]
    exact Step.pipesAgree_forEach_append hfs gs [] Context.fresh input
  · intro s t tree hs ht hcut hcomments
    have ht' := compiles_of_cut hs ht hcut hcomments
    refine ⟨ht', fun input => ?_, sameUpToError_of_cut hs hcut hcomments⟩
    rw [runScript_eq_resultUnder hs, runScript_eq_resultUnder ht']
    exact (sameUpToError_of_cut hs hcut hcomments _ _ input).mapError _ _

/-- A step that takes any value but the unit value. -/
def refuseUnit : Step := .attempt fun input =>
  match input with
  | .unit => .error (.custom "no value")
  | other => .ok other

/-- A script with one sub-block of three lines. -/
def wholeSource : String := "split ,\n  trim\n  split -\n  join +"

/-- The sub-block cut twice, first by a dedent and then by a comment. -/
def cutSource : String := "split ,\n    trim\n  split -\n# last\n  join +"

/-- Its tree without the comment. -/
def cutTree : Block := [.line ⟨"split ,", 0, ⟨0, 7⟩⟩, .block [.line ⟨"trim", 2, ⟨12, 16⟩⟩],
  .block [.line ⟨"split -", 1, ⟨19, 26⟩⟩], .block [.line ⟨"join +", 1, ⟨36, 42⟩⟩]]

theorem rootBlock_wholeSource : rootBlock wholeSource
    = [.line ⟨"split ,", 0, ⟨0, 7⟩⟩, .block [.line ⟨"trim", 1, ⟨10, 14⟩⟩,
        .line ⟨"split -", 1, ⟨17, 24⟩⟩, .line ⟨"join +", 1, ⟨27, 33⟩⟩]] := by
  refine rootBlock_of_canonical (.inr ⟨_, _, rfl, ?_⟩) (by decide)
  refine .block (by decide) (.line rfl (.line rfl .nil)) ?_ .nil
  rintro next more ⟨⟩

theorem rootBlock_cutSource : rootBlock cutSource
    = [.line ⟨"split ,", 0, ⟨0, 7⟩⟩, .block [.line ⟨"trim", 2, ⟨12, 16⟩⟩],
        .block [.line ⟨"split -", 1, ⟨19, 26⟩⟩], .line ⟨"# last", 0, ⟨27, 33⟩⟩,
        .block [.line ⟨"join +", 1, ⟨36, 42⟩⟩]] := by
  refine rootBlock_of_canonical (.inr ⟨_, _, rfl, ?_⟩) (by decide)
  refine .block (by decide) .nil ?_ (.block (by decide) .nil ?_
    (.line rfl (.block (by decide) .nil ?_ .nil)))
  · rintro next more ⟨⟩
    decide
  · rintro next more ⟨⟩
  · rintro next more ⟨⟩

/-- Of two elements one fails in the first part and the other in the second, which saves; and a
sub-block in three parts. -/
theorem map_fusion_wholeSource :
    SameUpToError
      ((Step.forEach (.pipe ([refuseUnit] ++ [Step.keepText]))).runUnder .inOrder Context.fresh
        (.list [.list [], .unit])).result
      ((Step.pipe [.forEach (.pipe [refuseUnit]), .forEach (.pipe [Step.keepText])]).runUnder
        .backwards Context.fresh (.list [.list [], .unit])).result
    ∧ Compiles cutSource .builtin
    ∧ ∀ input, SameUpToError (runScript wholeSource .builtin input)
        (runScript cutSource .builtin input) := by
  have hkeeps : ∀ step ∈ [refuseUnit], step.KeepsContext := by
    intro step hstep
    rw [List.mem_singleton.mp hstep]
    exact Step.keepsContext_attempt _
  refine ⟨map_fusion.1 _ _ hkeeps _ _ _ _, ?_⟩
  have hcut : Block.Cut (rootBlock wholeSource) cutTree := by
    have hsole : ∀ l : Line, l.command ≠ "save" → ¬Block.HasSave [.line l] := by
      rintro l hl ⟨m, hmem, -, hm⟩
      obtain rfl : m = l := by simpa using hmem
      exact hl hm
    rw [rootBlock_wholeSource]
    refine .line (sameWords_of_text_eq rfl) ?_
    refine @Block.Cut.cut [_] _ [_, _] _ _ (hsole _ (by decide))
      (.line (sameWords_of_text_eq rfl) .nil) ?_
    refine @Block.Cut.cut [_] _ [_] _ _ (hsole _ (by decide))
      (.line (sameWords_of_text_eq rfl) .nil) ?_
    exact .block (.line (sameWords_of_text_eq rfl) .nil) .nil
  have hcomments : Block.LessComments (rootBlock cutSource) cutTree := by
    rw [rootBlock_cutSource]
    exact .line _ (.block (.refl _) (.block (.refl _) (.comment rfl (.refl _))))
  obtain ⟨hcompiles, hsame, -⟩ :=
    map_fusion.2 wholeSource cutSource _ (by decide) (by decide) hcut hcomments
  exact ⟨hcompiles, hsame⟩

end CheckScript
