import CheckScript.Proofs.Script.Composition
import CheckScript.Proofs.Source.Canonical
import CheckScript.Proofs.Step.Isolation

/-!
# What the context of a block holds

A block of a script of built-in commands is run in a context of its own, in which only its own
`save` lines bind anything. After some of its nodes the context binds the keys of the `save` lines
among them, each to the value that the last of these lines for the key was given
(`get?_of_stateUnder`).

The invariant is carried by one step, `context_of_nodeUnder`: a `save` line binds its key to its
input, and every other node leaves the context as it is.

## Main statement

* `context_holds_saves`: this, and what follows from it for `load`, for the result of the block and
  for its sub-blocks, which have contexts of their own. `ScopedRun` lists the parts.
-/

namespace CheckScript

/-! ## Lines of the commands on the context -/

/-- The line is no comment and calls the command with this argument, decoded. -/
structure Line.Calls (line : Line) (name argument : String) : Prop where
  not_comment : line.isComment = false
  command : line.command = name
  argument : line.argument.map unescape = some argument

/-- The node is a line that saves under the key. -/
def Node.Saves : Node → String → Prop
  | .line l, key => l.Calls "save" key
  | .block _, _ => False

theorem Node.Saves.key_eq {node : Node} {key other : String} (h : node.Saves key)
    (h' : node.Saves other) : key = other := by
  cases node with
  | line l => exact Option.some.inj (h.argument.symm.trans h'.argument)
  | block inner => cases h

theorem compileLine_of_command {line : Line} {name : String} (hname : line.command = name)
    (command : Command) (hget : Registry.builtin.get? name = some command) :
    compileLine .builtin line
      = (command.build (line.argument.map command.form.decode)).mapError (.refused line) := by
  rw [compileLine, hname, hget]

theorem compileLine_save {line : Line} {key : String} (h : line.Calls "save" key) :
    compileLine .builtin line
      = .ok (.leaf fun context input => ⟨.ok input, context.insert key input⟩) := by
  rw [compileLine_of_command h.command ⟨.escaped, Command.save⟩ rfl]
  show (Command.save (line.argument.map unescape)).mapError _ = _
  rw [h.argument]
  rfl

theorem compileLine_load {line : Line} {key : String} (h : line.Calls "load" key) :
    compileLine .builtin line
      = .ok (.leaf fun context _ => ⟨.ok ((context.get? key).getD .unit), context⟩) := by
  rw [compileLine_of_command h.command ⟨.escaped, Command.load⟩ rfl]
  show (Command.load (line.argument.map unescape)).mapError _ = _
  rw [h.argument]
  rfl

/-- A `save` line without a key has no step. -/
theorem exists_calls_save {line : Line} {step : Step} (hcomment : line.isComment = false)
    (hcommand : line.command = "save") (h : compileLine .builtin line = .ok step) :
    ∃ key, line.Calls "save" key := by
  rw [compileLine_of_command hcommand ⟨.escaped, Command.save⟩ rfl] at h
  cases hargument : line.argument.map unescape with
  | some key => exact ⟨key, hcomment, hcommand, hargument⟩
  | none =>
    have h : (Command.save (line.argument.map unescape)).mapError _ = Except.ok step := h
    rw [hargument] at h
    cases h

/-! ## Blocks of built-in commands -/

namespace Block

/-- The context and the output of nodes that are run on an input as the first ones of a block. -/
def stateUnder (nodes : Block) (schedule : Schedule) (input : Value) :
    Except RuntimeError (Context × Value) :=
  Step.stateUnder (compileNodes .builtin nodes).steps schedule 0 Context.fresh input

/-- The result of a block that is run on an input. -/
def resultUnder (block : Block) (schedule : Schedule) (input : Value) : Except RuntimeError Value :=
  ((Step.pipe (compileNodes .builtin block).steps).runUnder schedule Context.fresh input).result

/-- The result of a block that is run for each element of a list. -/
def resultsUnder (block : Block) (schedule : Schedule) : Value → Except RuntimeError Value
  | .list items =>
    let results := items.mapIdx fun i item => block.resultUnder (schedule.inside i) item
    (joinBranches items.length (schedule.order [] (inOrder results))).map .list
  | other => .error (.expectedList other.kind)

end Block

/-- No line of the nodes, at any depth, has an error. -/
def NoErrors (nodes : Block) : Prop := ∀ line ∈ Block.lines nodes, lineErrors .builtin line = []

theorem NoErrors.of_append {nodes more : Block} (h : NoErrors (nodes ++ more)) :
    NoErrors nodes ∧ NoErrors more := by
  rw [NoErrors, Block.lines_append, List.forall_mem_append] at h
  exact h

theorem NoErrors.errors_eq_nil {nodes : Block} (h : NoErrors nodes) :
    (compileNodes .builtin nodes).errors = [] := by
  rw [errors_compileNodes]
  exact List.flatMap_eq_nil_iff.mpr h

/-! ## One node -/

/-- What one node makes of the context and the output of the nodes before it. -/
def nodeUnder (node : Node) (schedule : Schedule) (index : Nat) (context : Context)
    (value : Value) : Except RuntimeError (Context × Value) :=
  Step.stateUnder (compileNodes .builtin [node]).steps schedule index context value

theorem stateUnder_concat (nodes : Block) (node : Node) (schedule : Schedule) (input : Value) :
    (nodes ++ [node]).stateUnder schedule input
      = (nodes.stateUnder schedule input).bind fun state =>
          nodeUnder node schedule (compileNodes .builtin nodes).steps.length state.1 state.2 := by
  rw [Block.stateUnder, steps_compileNodes_append, Step.stateUnder_append, Nat.zero_add]
  rfl

theorem exists_step {l : Line} (hcomment : l.isComment = false)
    (h : lineErrors .builtin l = []) : ∃ step, compileLine .builtin l = .ok step := by
  rw [lineErrors, if_neg (by simp [hcomment])] at h
  cases hstep : compileLine .builtin l with
  | error e =>
    rw [hstep] at h
    cases h
  | ok step => exact ⟨step, rfl⟩

/-- A line is passed over, or has one step. -/
theorem nodeUnder_line_cases {l : Line} (h : NoErrors [.line l]) (schedule : Schedule)
    (index : Nat) (context : Context) (value : Value) :
    (l.isComment = true ∧ nodeUnder (.line l) schedule index context value = .ok (context, value))
    ∨ ∃ step, l.isComment = false ∧ compileLine .builtin l = .ok step
      ∧ nodeUnder (.line l) schedule index context value
        = (step.runUnder (schedule.inside index) context value).result.map fun output =>
          ((step.runUnder (schedule.inside index) context value).context, output) := by
  rw [nodeUnder, compileNodes_line, compileNodes_nil, List.append_nil, lineSteps]
  cases hcomment : l.isComment with
  | true => exact .inl ⟨rfl, Step.stateUnder_nil _ _ _ _⟩
  | false =>
    obtain ⟨step, hstep⟩ := exists_step hcomment (h l (by simp))
    rw [hstep]
    exact .inr ⟨step, rfl, rfl, Step.stateUnder_singleton _ _ _ _ _⟩

theorem runUnder_context_of_keepsContext {step : Step} (h : step.KeepsContext)
    (schedule : Schedule) (context : Context) (input : Value) :
    (step.runUnder schedule context input).context = context := by
  rw [Step.context_runUnder step schedule .inOrder, Step.runUnder_inOrder]
  exact h context input

/-- **A sub-block leaves the context as it is, and gives the results of its own runs.** -/
theorem nodeUnder_block {inner : Block} (h : NoErrors inner) (schedule : Schedule) (index : Nat)
    (context : Context) (value : Value) :
    nodeUnder (.block inner) schedule index context value
      = (inner.resultsUnder (schedule.inside index) value).map fun output => (context, output) := by
  rw [nodeUnder, compileNodes_block, if_pos h.errors_eq_nil, compileNodes_nil, List.append_nil,
    Step.stateUnder_singleton]
  obtain ⟨items, rfl⟩ | hother := Step.list_or_other value
  · rw [Step.runUnder_forEach_list]
    rfl
  · rw [Step.runUnder_forEach_other _ _ _ hother, Block.resultsUnder]
    exact hother

theorem nodeUnder_load {l : Line} {key : String} (h : NoErrors [.line l])
    (hcalls : l.Calls "load" key) (schedule : Schedule) (index : Nat) (context : Context)
    (value : Value) :
    nodeUnder (.line l) schedule index context value
      = .ok (context, (context.get? key).getD .unit) := by
  rcases nodeUnder_line_cases h schedule index context value with
    ⟨hcomment, -⟩ | ⟨step, -, hstep, hnode⟩
  · rw [hcalls.not_comment] at hcomment
    cases hcomment
  · rw [compileLine_load hcalls] at hstep
    cases hstep
    rw [hnode, Step.runUnder_leaf]
    rfl

/-- **A node that saves binds its key to its input, and any other leaves the context as it is.** -/
theorem context_of_nodeUnder {node : Node} (h : NoErrors [node]) {schedule : Schedule} {index : Nat}
    {context final : Context} {value output : Value}
    (hrun : nodeUnder node schedule index context value = .ok (final, output)) :
    (∃ key, node.Saves key ∧ final = context.insert key value)
      ∨ (∀ key, ¬node.Saves key) ∧ final = context := by
  cases node with
  | block inner =>
    have hinner : NoErrors inner := fun l hl => h l (by simpa using hl)
    rw [nodeUnder_block hinner, map_eq_ok_iff] at hrun
    obtain ⟨results, -, heq⟩ := hrun
    cases heq
    exact .inr ⟨fun key hsaves => hsaves, rfl⟩
  | line l =>
    rcases nodeUnder_line_cases h schedule index context value with
      ⟨hcomment, hnode⟩ | ⟨step, hcomment, hstep, hnode⟩
    · rw [hnode] at hrun
      cases hrun
      refine .inr ⟨fun key hsaves => ?_, rfl⟩
      rw [hsaves.not_comment] at hcomment
      cases hcomment
    · by_cases hcommand : l.command = "save"
      · obtain ⟨key, hcalls⟩ := exists_calls_save hcomment hcommand hstep
        rw [compileLine_save hcalls] at hstep
        cases hstep
        rw [hnode, Step.runUnder_leaf] at hrun
        cases hrun
        exact .inl ⟨key, hcalls, rfl⟩
      · -- of the other commands none puts anything aside
        have hkeeps := keepsContext_of_compileLine hcommand hstep
        rw [hnode, runUnder_context_of_keepsContext hkeeps, map_eq_ok_iff] at hrun
        obtain ⟨result, -, heq⟩ := hrun
        cases heq
        exact .inr ⟨fun key hsaves => hcommand hsaves.command, rfl⟩

/-! ## Any number of nodes -/

/-- The last of the nodes that saves under the key stands behind the nodes `before`. -/
def LastSave (nodes : Block) (key : String) (before : Block) : Prop :=
  ∃ node after, nodes = before ++ node :: after ∧ node.Saves key
    ∧ ∀ other ∈ after, ¬other.Saves key

theorem not_lastSave_nil {key : String} {before : Block} : ¬LastSave [] key before := by
  rintro ⟨node, after, heq, -⟩
  exact List.cons_ne_nil _ _ (List.append_eq_nil_iff.mp heq.symm).2

theorem lastSave_concat_of_saves {nodes : Block} {node : Node} {key : String} {before : Block}
    (h : node.Saves key) : LastSave (nodes ++ [node]) key before ↔ before = nodes := by
  constructor
  · rintro ⟨last, after, heq, -, hafter⟩
    rcases List.eq_nil_or_concat after with rfl | ⟨init, other, rfl⟩
    · exact (List.append_inj_left' heq rfl).symm
    · rw [List.concat_eq_append, ← List.cons_append, ← List.append_assoc] at heq
      obtain rfl : node = other := by simpa using List.append_inj_right' heq rfl
      exact absurd h (hafter node (by simp))
  · rintro rfl
    exact ⟨node, [], rfl, h, by simp⟩

theorem lastSave_concat_of_not_saves {nodes : Block} {node : Node} {key : String} {before : Block}
    (h : ¬node.Saves key) : LastSave (nodes ++ [node]) key before ↔ LastSave nodes key before := by
  constructor
  · rintro ⟨last, after, heq, hlast, hafter⟩
    rcases List.eq_nil_or_concat after with rfl | ⟨init, other, rfl⟩
    · obtain rfl : node = last := by simpa using List.append_inj_right' heq rfl
      exact absurd hlast h
    · rw [List.concat_eq_append, ← List.cons_append, ← List.append_assoc] at heq
      exact ⟨last, init, List.append_inj_left' heq rfl, hlast,
        fun n hn => hafter n (by simp [hn])⟩
  · rintro ⟨last, after, rfl, hlast, hafter⟩
    refine ⟨last, after ++ [node], by simp, hlast, fun n hn => ?_⟩
    rcases List.mem_append.mp hn with hn | hn
    · exact hafter n hn
    · obtain rfl := List.mem_singleton.mp hn
      exact h

/-- **The context binds the keys that were saved under, each to the value that the last `save` for
it was given, and no others.** -/
theorem get?_of_stateUnder {nodes : Block} (h : NoErrors nodes) {schedule : Schedule}
    {input : Value} {context : Context} {value : Value}
    (hrun : nodes.stateUnder schedule input = .ok (context, value)) (key : String)
    (saved : Value) :
    context.get? key = some saved
      ↔ ∃ before, LastSave nodes key before
        ∧ ∃ held, before.stateUnder schedule input = .ok (held, saved) := by
  -- from the end, since the last node alone can change which `save` for the key is the last
  induction nodes using List.reverseRecOn generalizing context value with
  | nil =>
    rw [Block.stateUnder, compileNodes_nil, Step.stateUnder_nil] at hrun
    cases hrun
    constructor
    · intro hget
      rw [Dict.get?_empty] at hget
      cases hget
    · rintro ⟨before, hlast, -⟩
      exact absurd hlast not_lastSave_nil
  | append_singleton nodes node ih =>
    obtain ⟨hnodes, hnode⟩ := h.of_append
    rw [stateUnder_concat, bind_eq_ok_iff] at hrun
    obtain ⟨⟨context', value'⟩, hbefore, hrun⟩ := hrun
    rcases context_of_nodeUnder hnode hrun with ⟨key', hsaves, rfl⟩ | ⟨hnot, rfl⟩
    · by_cases hkey : key' = key
      · subst hkey
        rw [Dict.get?_insert_self]
        constructor
        · intro hget
          cases hget
          exact ⟨nodes, (lastSave_concat_of_saves hsaves).mpr rfl, context', hbefore⟩
        · rintro ⟨before, hlast, held, hheld⟩
          rw [(lastSave_concat_of_saves hsaves).mp hlast, hbefore] at hheld
          cases hheld
          rfl
      · have hnot : ¬node.Saves key := fun hother => hkey (hsaves.key_eq hother)
        rw [Dict.get?_insert_of_ne _ _ hkey, ih hnodes hbefore]
        simp only [lastSave_concat_of_not_saves hnot]
    · rw [ih hnodes hbefore]
      simp only [lastSave_concat_of_not_saves (hnot key)]

/-- Nodes that come to their end have come to the end of those at their front. -/
theorem exists_stateUnder_of_append {before after : Block} {schedule : Schedule} {input : Value}
    {state : Context × Value} (h : (before ++ after).stateUnder schedule input = .ok state) :
    ∃ held saved, before.stateUnder schedule input = .ok (held, saved) := by
  rw [Block.stateUnder, steps_compileNodes_append, Step.stateUnder_append, bind_eq_ok_iff] at h
  obtain ⟨⟨held, saved⟩, hbefore, -⟩ := h
  exact ⟨held, saved, hbefore⟩

theorem exists_lastSave {nodes : Block} {key : String} (h : ∃ node ∈ nodes, node.Saves key) :
    ∃ before, LastSave nodes key before := by
  induction nodes using List.reverseRecOn with
  | nil =>
    obtain ⟨node, hmem, -⟩ := h
    cases hmem
  | append_singleton nodes last ih =>
    by_cases hlast : last.Saves key
    · exact ⟨nodes, (lastSave_concat_of_saves hlast).mpr rfl⟩
    · obtain ⟨node, hmem, hsaves⟩ := h
      rcases List.mem_append.mp hmem with hmem | hmem
      · obtain ⟨before, hbefore⟩ := ih ⟨node, hmem, hsaves⟩
        exact ⟨before, (lastSave_concat_of_not_saves hlast).mpr hbefore⟩
      · rw [List.mem_singleton.mp hmem] at hsaves
        exact absurd hsaves hlast

/-! ## Results -/

/-- A line of the block itself, no comment, is a `save`. -/
def Block.HasSave (block : Block) : Prop :=
  ∃ l, Node.line l ∈ block ∧ l.isComment = false ∧ l.command = "save"

theorem Block.resultUnder_eq (block : Block) (schedule : Schedule) (input : Value) :
    block.resultUnder schedule input
      = (block.stateUnder schedule input).map fun state => Step.pipeResult state.1 state.2 := by
  rw [Block.resultUnder, Step.runUnder_pipe]
  rfl

variable {block : Block} {schedule : Schedule} {input : Value} {context : Context} {value : Value}

theorem bound_iff_hasSave (h : NoErrors block)
    (hrun : block.stateUnder schedule input = .ok (context, value)) :
    (∃ key saved, context.get? key = some saved) ↔ block.HasSave := by
  constructor
  · rintro ⟨key, saved, hget⟩
    obtain ⟨before, hlast, -⟩ := (get?_of_stateUnder h hrun key saved).mp hget
    obtain ⟨node, after, rfl, hsaves, -⟩ := hlast
    cases node with
    | line l => exact ⟨l, by simp, hsaves.not_comment, hsaves.command⟩
    | block inner => cases hsaves
  · rintro ⟨l, hmem, hcomment, hcommand⟩
    obtain ⟨step, hstep⟩ := exists_step hcomment (h l (Block.mem_lines_of_mem hmem))
    obtain ⟨key, hcalls⟩ := exists_calls_save hcomment hcommand hstep
    obtain ⟨before, hlast⟩ := exists_lastSave ⟨.line l, hmem, hcalls⟩
    -- the nodes before that `save` have come to their end, with the value that it was given
    obtain ⟨node, after, rfl, -⟩ := id hlast
    obtain ⟨held, saved, hheld⟩ := exists_stateUnder_of_append hrun
    exact ⟨key, saved, (get?_of_stateUnder h hrun key saved).mpr ⟨before, hlast, held, hheld⟩⟩

theorem resultUnder_of_hasSave (h : NoErrors block)
    (hrun : block.stateUnder schedule input = .ok (context, value)) (hsave : block.HasSave) :
    block.resultUnder schedule input = .ok context.toValue := by
  rw [Block.resultUnder_eq, hrun]
  show Except.ok (Step.pipeResult context value) = _
  rw [Step.pipeResult_of_bound value ((bound_iff_hasSave h hrun).mpr hsave)]

theorem resultUnder_of_not_hasSave (h : NoErrors block)
    (hrun : block.stateUnder schedule input = .ok (context, value)) (hsave : ¬block.HasSave) :
    block.resultUnder schedule input = .ok value := by
  have hnone : ∀ key, context.get? key = none := by
    intro key
    by_contra hbound
    obtain ⟨saved, hsaved⟩ := Option.ne_none_iff_exists'.mp hbound
    exact hsave ((bound_iff_hasSave h hrun).mp ⟨key, saved, hsaved⟩)
  rw [Block.resultUnder_eq, hrun]
  show Except.ok (Step.pipeResult context value) = _
  rw [Step.pipeResult_of_unbound value hnone]

/-! ## Scripts -/

/-- The context of a block that is run on an input is its own. -/
structure ScopedRun (block : Block) (schedule : Schedule) (input : Value) : Prop where
  /-- After the first nodes it binds the keys of the `save` lines among them, each to the value that
  the last of these for the key was given, and no others. -/
  saved : ∀ k context value, Block.stateUnder (block.take k) schedule input = .ok (context, value) →
    ∀ key saved, context.get? key = some saved
      ↔ ∃ before, LastSave (block.take k) key before
        ∧ ∃ held, before.stateUnder schedule input = .ok (held, saved)
  /-- A `load` gives what is bound to its key, or the unit value. -/
  loaded : ∀ k context value l key,
    Block.stateUnder (block.take k) schedule input = .ok (context, value) →
    block[k]? = some (.line l) → l.Calls "load" key →
    Block.stateUnder (block.take (k + 1)) schedule input
      = .ok (context, (context.get? key).getD .unit)
  /-- A sub-block leaves the context as it is. What it gives are the results of its own runs on the
  elements, to which neither this context nor the other elements matter. -/
  nested : ∀ k context value inner,
    Block.stateUnder (block.take k) schedule input = .ok (context, value) →
    block[k]? = some (.block inner) →
    Block.stateUnder (block.take (k + 1)) schedule input
      = (Block.resultsUnder inner
          (schedule.inside (compileNodes .builtin (block.take k)).steps.length) value).map
        fun output => (context, output)
  /-- The result is the context as a record if the block has a `save` line, and otherwise the last
  output. -/
  result : ∀ context value, block.stateUnder schedule input = .ok (context, value) →
    (block.HasSave → block.resultUnder schedule input = .ok context.toValue)
    ∧ (¬block.HasSave → block.resultUnder schedule input = .ok value)
  /-- An error of a node is the result. -/
  error : ∀ e, block.stateUnder schedule input = .error e →
    block.resultUnder schedule input = .error e

theorem stateUnder_take_succ {k : Nat} {node : Node} (hnode : block[k]? = some node)
    (hrun : Block.stateUnder (block.take k) schedule input = .ok (context, value)) :
    Block.stateUnder (block.take (k + 1)) schedule input
      = nodeUnder node schedule (compileNodes .builtin (block.take k)).steps.length context
          value := by
  rw [List.take_add_one, hnode]
  show Block.stateUnder (block.take k ++ [node]) schedule input = _
  rw [stateUnder_concat, hrun]
  rfl

theorem scopedRun_of_noErrors (h : NoErrors block) (schedule : Schedule) (input : Value) :
    ScopedRun block schedule input := by
  have htake : ∀ k, NoErrors (block.take k) ∧ NoErrors (block.drop k) := by
    intro k
    rw [← List.take_append_drop k block] at h
    exact h.of_append
  have hone : ∀ {k : Nat} {node : Node}, block[k]? = some node → NoErrors [node] := by
    intro k node hnode line hline
    refine h line ?_
    obtain ⟨hk, rfl⟩ := List.getElem?_eq_some_iff.mp hnode
    rw [← List.take_append_drop k block, List.drop_eq_getElem_cons hk, Block.lines_append,
      Block.lines_cons]
    simp only [Block.lines_cons, Block.lines_nil, List.append_nil] at hline
    exact List.mem_append_right _ (List.mem_append_left _ hline)
  exact {
    saved := fun k context value hrun => get?_of_stateUnder (htake k).1 hrun
    loaded := fun k context value l key hrun hnode hcalls => by
      rw [stateUnder_take_succ hnode hrun, nodeUnder_load (hone hnode) hcalls]
    nested := fun k context value inner hrun hnode => by
      have hinner : NoErrors inner := fun l hl => hone hnode l (by simpa using hl)
      rw [stateUnder_take_succ hnode hrun, nodeUnder_block hinner]
    result := fun context value hrun =>
      ⟨resultUnder_of_hasSave h hrun, resultUnder_of_not_hasSave h hrun⟩
    error := fun e hrun => by
      rw [Block.resultUnder_eq, hrun]
      rfl }

theorem noErrors_of_within {source : String} (hcompiles : Compiles source .builtin)
    (h : block.Within (rootBlock source)) : NoErrors block := by
  obtain ⟨hnone, herrors⟩ := compiles_iff.mp hcompiles
  intro line hline
  refine List.flatMap_eq_nil_iff.mp herrors line ?_
  rw [← lines_rootBlock hnone]
  exact h.lines_subset hline

/-- A script that compiles gives the result of its root, with branches that end in the order of the
elements. -/
theorem runScript_eq_resultUnder {source : String} (h : Compiles source .builtin) (input : Value) :
    runScript source .builtin input
      = ((rootBlock source).resultUnder .inOrder input).mapError .runtime := by
  rw [runScript_of_compiles h, Block.resultUnder, Step.runUnder_inOrder, Step.run]

/-- **Only the `save` lines of a block bind anything in its context.** A script that compiles gives
the result of its root. Its root and every block in it, run on any input under any schedule, have a
context of their own: at every place in the run it holds what the `save` lines of the block so far
were given last. -/
theorem context_holds_saves (source : String) (h : Compiles source .builtin) :
    (∀ input, runScript source .builtin input
      = ((rootBlock source).resultUnder .inOrder input).mapError .runtime)
    ∧ ∀ block, Block.Within block (rootBlock source) → ∀ schedule input,
      ScopedRun block schedule input := by
  refine ⟨fun input => ?_, fun block hwithin schedule input => ?_⟩
  · rw [runScript_of_compiles h, Block.resultUnder, Step.runUnder_inOrder, Step.run]
  · exact scopedRun_of_noErrors (noErrors_of_within h hwithin) schedule input

/-- A script that saves under one key twice and loads it in a sub-block and at its end. -/
def savingSource : String := "save a\n  load a\nsave a\nload a"

/-- The sub-block of the script. -/
def loadingBlock : Block := [.line ⟨"load a", 1, ⟨9, 15⟩⟩]

/-- The tree of the script. -/
def savingBlock : Block := [.line ⟨"save a", 0, ⟨0, 6⟩⟩, .block loadingBlock,
  .line ⟨"save a", 0, ⟨16, 22⟩⟩, .line ⟨"load a", 0, ⟨23, 29⟩⟩]

theorem rootBlock_savingSource : rootBlock savingSource = savingBlock := by
  refine rootBlock_of_canonical (.inr ⟨_, _, rfl, ?_⟩) (by decide)
  refine .block (by decide) .nil ?_ (.line rfl (.line rfl .nil))
  rintro next more ⟨⟩

/-- Under a schedule that joins the elements from the last to the first: the sub-block does not see
what is bound around it, and the second `save` wins. -/
theorem context_holds_saves_savingSource :
    loadingBlock.resultUnder .backwards (.text "x") = .ok .unit
    ∧ savingBlock.resultUnder .backwards (.list [.text "x", .text "y"])
      = .ok (.record [("a", .list [.unit, .unit])]) := by
  have hcompiles : Compiles savingSource .builtin := by decide
  have hscoped := (context_holds_saves savingSource hcompiles).2
  rw [rootBlock_savingSource] at hscoped
  constructor
  · have hwithin : loadingBlock.Within savingBlock :=
      .inside (by simp [savingBlock]) .self
    refine ((hscoped loadingBlock hwithin _ _).result Context.fresh .unit rfl).2 ?_
    rintro ⟨l, hmem, -, hsave⟩
    obtain rfl : l = ⟨"load a", 1, ⟨9, 15⟩⟩ := by simpa [loadingBlock] using hmem
    exact absurd hsave (by decide)
  · have hrun : savingBlock.stateUnder .backwards (.list [.text "x", .text "y"])
        = .ok (Context.fresh.insert "a" (.list [.unit, .unit]), .list [.unit, .unit]) := by
      decide +kernel
    exact ((hscoped savingBlock .self _ _).result _ _ hrun).1
      ⟨_, List.mem_cons_self, rfl, by decide⟩

end CheckScript
