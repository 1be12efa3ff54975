import CheckScript.Proofs.Script.Compiling
import CheckScript.Proofs.Script.Running

/-!
# Scripts put together from scripts

Two scripts one after the other are run one after the other, and a script that stands deeper behind
another one is run for each element of the list that the other gives. Neither holds if the first
script puts something aside at its root, since the result of the joined script is then its context.

## Main statements

* `compile_append`: scripts one after the other, with the errors of both in their places.
* `runScript_append_indented`: a script indented behind another one.
-/

namespace CheckScript

open Text

/-! ## Steps of a script that puts nothing aside -/

/-- A line of the script, not a comment and not in a sub-block, is a `save`. -/
def SavesAtRoot (source : String) : Prop :=
  ∃ script line, parse source 0 = .ok script ∧ Node.line line ∈ script.root
    ∧ line.isComment = false ∧ line.command = "save"

/-- A script without a line that starts with `save` puts nothing aside, at its root or elsewhere. -/
theorem not_savesAtRoot_of_lines {source : String}
    (h : ∀ line ∈ sourceLines source, line.command ≠ "save") : ¬SavesAtRoot source := by
  rintro ⟨script, line, hparse, hmem, -, hcommand⟩
  obtain ⟨hnone, rfl⟩ := parse_eq_ok_iff.mp hparse
  refine h line ?_ hcommand
  rw [← lines_rootBlock hnone]
  exact Block.mem_lines_of_mem hmem

theorem mem_lineSteps {registry : Registry} {line : Line} {step : Step}
    (h : step ∈ lineSteps registry line) :
    line.isComment = false ∧ compileLine registry line = .ok step := by
  rw [lineSteps] at h
  split at h
  · simp at h
  · next hcomment =>
    cases hc : compileLine registry line with
    | ok step' =>
      rw [hc, List.mem_singleton] at h
      exact ⟨by simpa using hcomment, by rw [h]⟩
    | error e =>
      rw [hc] at h
      simp at h

/-- A step of a block comes from one of its own lines, or runs a sub-block for each element. -/
theorem mem_steps_compileNodes {registry : Registry} {nodes : Block} {step : Step}
    (h : step ∈ (compileNodes registry nodes).steps) :
    (∃ line, Node.line line ∈ nodes ∧ line.isComment = false
        ∧ compileLine registry line = .ok step)
      ∨ ∃ body, step = .forEach body := by
  induction nodes using Block.induction with
  | nil => simp at h
  | line l rest ih =>
    rw [compileNodes_line] at h
    rcases List.mem_append.mp h with h | h
    · exact .inl ⟨l, List.mem_cons_self, mem_lineSteps h⟩
    · exact (ih h).imp_left fun ⟨line, hmem, hline⟩ => ⟨line, List.mem_cons_of_mem _ hmem, hline⟩
  | block inner rest _ ih =>
    rw [compileNodes_block] at h
    rcases List.mem_append.mp h with h | h
    · split at h
      · exact .inr ⟨_, List.mem_singleton.mp h⟩
      · simp at h
    · exact (ih h).imp_left fun ⟨line, hmem, hline⟩ => ⟨line, List.mem_cons_of_mem _ hmem, hline⟩

theorem keepsContext_of_compileLine {line : Line} {step : Step} (hcommand : line.command ≠ "save")
    (h : compileLine .builtin line = .ok step) : step.KeepsContext := by
  obtain ⟨command, hget, hbuild⟩ := exists_build_of_compileLine h
  exact keepsContext_of_builtin hcommand hget _ _ hbuild

/-- **The steps of a block without a `save` line of its own leave its context alone.** -/
theorem keepsContext_of_no_save {nodes : Block}
    (hsave : ∀ line, Node.line line ∈ nodes → line.isComment = false → line.command ≠ "save") :
    ∀ step ∈ (compileNodes .builtin nodes).steps, step.KeepsContext := by
  intro step h
  rcases mem_steps_compileNodes h with ⟨line, hmem, hcomment, hline⟩ | ⟨body, rfl⟩
  · exact keepsContext_of_compileLine (hsave line hmem hcomment) hline
  · exact Step.keepsContext_forEach body

/-- The steps of a script without a `save` at its root leave its context alone. -/
theorem keepsContext_of_not_savesAtRoot {source : String}
    (hnone : NoneShallower (sourceLines source)) (hsave : ¬SavesAtRoot source) :
    ∀ step ∈ (compileNodes .builtin (rootBlock source)).steps, step.KeepsContext :=
  keepsContext_of_no_save fun line hmem hcomment hcommand =>
    hsave ⟨_, line, parse_eq_ok_iff.mpr ⟨hnone, rfl⟩, hmem, hcomment, hcommand⟩

theorem runScript_of_compiles {source : String} {registry : Registry}
    (h : Compiles source registry) (input : Value) :
    runScript source registry input
      = (Step.runPipe (compileNodes registry (rootBlock source)).steps Context.fresh
          input).mapError .runtime := by
  obtain ⟨hnone, herrors⟩ := compiles_iff.mp h
  rw [runScript, compile_eq_ok_iff.mpr ⟨hnone, herrors, rfl⟩, ← Step.result_pipe]
  rfl

/-! ## One script after the other -/

/-- The error with its line `by_` bytes further down. -/
def CompileError.shift (by_ : Nat) : CompileError → CompileError
  | .unknownCommand line available => .unknownCommand (line.shift by_) available
  | .refused line cause => .refused (line.shift by_) cause

@[simp] theorem Line.shift_command (by_ : Nat) (line : Line) :
    (line.shift by_).command = line.command := rfl

@[simp] theorem Line.shift_argument (by_ : Nat) (line : Line) :
    (line.shift by_).argument = line.argument := rfl

/-- The place of the error is what moves. -/
theorem CompileError.span_shift (by_ : Nat) (e : CompileError) :
    (e.shift by_).span = e.span.shift by_ := by
  cases e with
  | unknownCommand line available =>
    show (line.shift by_).commandSpan = line.commandSpan.shift by_
    rw [Line.commandSpan, Line.commandSpan, Line.shift_command]
    simp only [Line.shift, Span.shift, Span.mk.injEq, true_and]
    omega
  | refused line cause => rfl

theorem CompileError.message_shift (by_ : Nat) (e : CompileError) :
    (e.shift by_).message = e.message := by
  cases e <;> rfl

theorem CompileError.notes_shift (by_ : Nat) (e : CompileError) :
    (e.shift by_).notes = e.notes := by
  cases e <;> rfl

theorem compileLine_shift (registry : Registry) (by_ : Nat) (line : Line) :
    compileLine registry (line.shift by_)
      = (compileLine registry line).mapError (CompileError.shift by_) := by
  rw [compileLine, compileLine, Line.shift_command, Line.shift_argument]
  cases registry.get? line.command with
  | none => rfl
  | some command =>
    simp only
    cases command.build (line.argument.map command.form.decode) <;> rfl

theorem lineErrors_shift (registry : Registry) (by_ : Nat) (line : Line) :
    lineErrors registry (line.shift by_)
      = (lineErrors registry line).map (CompileError.shift by_) := by
  rw [lineErrors, lineErrors, compileLine_shift]
  show (if line.isComment = true then _ else _) = _
  split
  · rfl
  · cases compileLine registry line <;> rfl

theorem sourceErrors_append (s t : String) (registry : Registry) :
    sourceErrors (s ++ "\n" ++ t) registry
      = sourceErrors s registry
        ++ (sourceErrors t registry).map (CompileError.shift (byteLength s.toList + 1)) := by
  rw [sourceErrors, sourceLines_append, List.flatMap_append, List.flatMap_map, sourceErrors,
    sourceErrors, List.map_flatMap]
  congr 1
  exact List.flatMap_congr fun line _ => lineErrors_shift registry _ line

/-- The scripts start at one level, if both have a line. -/
def SameRootLevel (s t : String) : Prop :=
  ∀ l ∈ (sourceLines s).head?, ∀ m ∈ (sourceLines t).head?, l.indent = m.indent

instance (s t : String) : Decidable (SameRootLevel s t) :=
  inferInstanceAs (Decidable
    (∀ l ∈ (sourceLines s).head?, ∀ m ∈ (sourceLines t).head?, l.indent = m.indent))

/-- **Lines at one level are grouped one after the other.** -/
theorem group_append {ls ms : List Line} (hls : NoneShallower ls) (hms : NoneShallower ms)
    (h : ∀ l ∈ ls.head?, ∀ m ∈ ms.head?, l.indent = m.indent) :
    NoneShallower (ls ++ ms)
      ∧ (group (rootLevel (ls ++ ms)) (ls ++ ms)).nodes
        = (group (rootLevel ls) ls).nodes ++ (group (rootLevel ms) ms).nodes := by
  rcases eq_or_ne ls [] with rfl | hlne
  · rw [List.nil_append, group_nil]
    exact ⟨hms, rfl⟩
  rcases eq_or_ne ms [] with rfl | hmne
  · rw [List.append_nil, group_nil, List.append_nil]
    exact ⟨hls, rfl⟩
  obtain ⟨l, ls, rfl⟩ := List.exists_cons_of_ne_nil hlne
  obtain ⟨m, ms, rfl⟩ := List.exists_cons_of_ne_nil hmne
  have hlevel : l.indent = m.indent := h l rfl m rfl
  have hls' : ∀ line ∈ l :: ls, m.indent ≤ line.indent := fun line hl => hlevel ▸ hls line hl
  refine ⟨fun line hline => ?_, ?_⟩
  · rcases List.mem_append.mp hline with hline | hline
    · exact hls line hline
    · exact hlevel.le.trans (hms line hline)
  · show (group l.indent ((l :: ls) ++ (m :: ms))).nodes
      = (group l.indent (l :: ls)).nodes ++ (group m.indent (m :: ms)).nodes
    rw [hlevel, nodes_group_append hls' (by simp)]

/-- The errors with which a source fails to compile. -/
def compileErrors (source : String) (registry : Registry) : List CompileError :=
  match compile source registry with
  | .error (.compile errors) => errors
  | _ => []

theorem compileErrors_of_parses {source : String} (h : Parses source) (registry : Registry) :
    compileErrors source registry = sourceErrors source registry := by
  rw [compileErrors, compile_of_noneShallower (parses_iff.mp h)]
  split
  · next heq =>
    split at heq
    · cases heq
    · cases heq
      rfl
  · next hne =>
    by_cases hnil : sourceErrors source registry = []
    · rw [hnil]
    · rw [if_neg hnil] at hne
      exact absurd rfl (hne _)

theorem sameUpToSpan_shift (by_ : Nat) (lines : List Line) :
    List.Forall₂ Line.SameUpToSpan lines (lines.map (Line.shift by_)) := by
  rw [List.forall₂_map_right_iff]
  exact List.forall₂_same.mpr fun line _ => ⟨rfl, rfl⟩

/-- **The joined source has a tree, and its steps are those of its two parts.** -/
theorem steps_append {s t : String} (hs : Parses s) (ht : Parses t) (hlevel : SameRootLevel s t)
    (registry : Registry) :
    NoneShallower (sourceLines (s ++ "\n" ++ t))
      ∧ (compileNodes registry (rootBlock (s ++ "\n" ++ t))).steps
        = (compileNodes registry (rootBlock s)).steps
          ++ (compileNodes registry (rootBlock t)).steps := by
  have hshift := sameUpToSpan_shift (byteLength s.toList + 1) (sourceLines t)
  have hlevels := levelsAlike_of_sameUpToSpan hshift
  have hnone := (noneShallower_congr hshift hlevels).mp (parses_iff.mp ht)
  have halike := (group_alike hshift hlevels).mono fun _ _ hlm => sameWords_of_text_eq hlm.1
  have hhead : ∀ l ∈ (sourceLines s).head?,
      ∀ m ∈ ((sourceLines t).map (Line.shift (byteLength s.toList + 1))).head?,
        l.indent = m.indent := by
    intro l hl m hm
    rw [List.head?_map] at hm
    obtain ⟨m', hm', rfl⟩ := Option.map_eq_some_iff.mp hm
    exact hlevel l hl m' hm'
  obtain ⟨hparses, hnodes⟩ := group_append (parses_iff.mp hs) hnone hhead
  rw [rootBlock, sourceLines_append]
  refine ⟨hparses, ?_⟩
  rw [hnodes, steps_compileNodes_append, ← steps_eq_of_alike halike]
  rfl

/-- **Scripts at one level that stand one after the other are run one after the other.** The joined
script compiles iff both parts do, and has the errors of both, those of the second part behind the
first part and a newline. If nothing is put aside at the root of the first part, its output is the
input of the second, and its error is the error of the whole. -/
theorem compile_append (s t : String) (hs : Parses s) (ht : Parses t)
    (hlevel : SameRootLevel s t) :
    (∀ registry, Compiles (s ++ "\n" ++ t) registry ↔ Compiles s registry ∧ Compiles t registry)
    ∧ (∀ registry, ¬(Compiles s registry ∧ Compiles t registry) →
        compile (s ++ "\n" ++ t) registry
          = .error (.compile (compileErrors s registry
            ++ (compileErrors t registry).map (CompileError.shift (byteLength s.toList + 1)))))
    ∧ (Compiles s .builtin → Compiles t .builtin → ¬SavesAtRoot s →
        ∀ input, runScript (s ++ "\n" ++ t) .builtin input
          = runScript s .builtin input >>= runScript t .builtin) := by
  have hcompiles (registry : Registry) : Compiles (s ++ "\n" ++ t) registry
      ↔ Compiles s registry ∧ Compiles t registry := by
    have hnone := (steps_append hs ht hlevel registry).1
    simp [compiles_iff, hnone, parses_iff.mp hs, parses_iff.mp ht, sourceErrors_append]
  refine ⟨hcompiles, fun registry hnot => ?_, fun hcs hct hsave input => ?_⟩
  · rw [compile_eq_error (steps_append hs ht hlevel registry).1 ((hcompiles registry).not.mpr hnot),
      sourceErrors_append, compileErrors_of_parses hs, compileErrors_of_parses ht]
  · have hsteps := (steps_append hs ht hlevel .builtin).2
    have hkeeps := keepsContext_of_not_savesAtRoot (parses_iff.mp hs) hsave
    have hjoined := (hcompiles .builtin).mpr ⟨hcs, hct⟩
    rw [runScript_of_compiles hjoined, hsteps, Step.runPipe_append hkeeps,
      runScript_of_compiles hcs]
    cases Step.runPipe (compileNodes .builtin (rootBlock s)).steps Context.fresh input with
    | error e => rfl
    | ok value => exact (runScript_of_compiles hct value).symm

/-- A first part that ends inside a sub-block, with a second part behind it and with one that does
not compile. -/
theorem compile_append_split_join :
    (∀ input, runScript "split ,\n  trim\njoin -" .builtin input
      = runScript "split ,\n  trim" .builtin input >>= runScript "join -" .builtin)
    ∧ compile "split ,\n  trim\nswap" .builtin
      = .error (.compile [.unknownCommand ⟨"swap", 0, ⟨15, 19⟩⟩ Registry.builtin.names]) := by
  have hs : Parses "split ,\n  trim" := by decide
  constructor
  · exact (compile_append "split ,\n  trim" "join -" hs (by decide) (by decide)).2.2 (by decide)
      (by decide) (not_savesAtRoot_of_lines (by decide))
  · have ht : Parses "swap" := by decide
    have hcompile := (compile_append "split ,\n  trim" "swap" hs ht (by decide)).2.1 .builtin
      (by decide)
    rw [compileErrors_of_parses hs, compileErrors_of_parses ht] at hcompile
    exact hcompile

/-! ## A script for each element -/

/-- The last line of the source is at its root. -/
def EndsAtRoot (source : String) : Prop :=
  ∃ last, (sourceLines source).getLast? = some last
    ∧ last.indent = rootLevel (sourceLines source)

/-- The source run on each element of a list; nothing else has elements. -/
def runForEach (source : String) (registry : Registry) : Value → Except ScriptError Value
  | .list items => (items.mapM (runScript source registry)).map .list
  | other => .error (.runtime (.expectedList other.kind))

theorem mapM_mapError {α β ε ε' : Type} (f : α → Except ε β) (g : ε → ε') (items : List α) :
    items.mapM (fun item => (f item).mapError g) = (items.mapM f).mapError g := by
  induction items with
  | nil => rfl
  | cons item items ih =>
    rw [List.mapM_cons, List.mapM_cons, ih]
    cases f item with
    | error e => rfl
    | ok value => cases items.mapM f <;> rfl

theorem runForEach_of_compiles {source : String} {registry : Registry}
    (h : Compiles source registry) (value : Value) :
    runForEach source registry value
      = (Step.runPipe [.forEach (.pipe (compileNodes registry (rootBlock source)).steps)]
          Context.fresh value).mapError .runtime := by
  rw [Step.runPipe_forEach]
  cases value with
  | list items =>
    have hrun : runScript source registry = fun item =>
        ((Step.pipe (compileNodes registry (rootBlock source)).steps).result item).mapError
          .runtime := by
      funext item
      rw [runScript_of_compiles h, Step.result_pipe]
    rw [runForEach, hrun, mapM_mapError]
    dsimp only
    cases items.mapM (Step.pipe (compileNodes registry (rootBlock source)).steps).result <;> rfl
  | unit => rfl
  | text s => rfl
  | record fields => rfl

/-- **A source that is indented behind another one is one more block at its end.** -/
theorem rootBlock_append_indented {h s : String} {levels : Nat} (hh : Parses h) (hs : Parses s)
    (hne : sourceLines s ≠ []) (hend : EndsAtRoot h)
    (hdeeper : rootLevel (sourceLines h) < rootLevel (sourceLines (indentSource levels s))) :
    NoneShallower (sourceLines (h ++ "\n" ++ indentSource levels s))
      ∧ ∃ inner, rootBlock (h ++ "\n" ++ indentSource levels s) = rootBlock h ++ [.block inner]
        ∧ Block.Alike SameWords (rootBlock s) inner := by
  obtain ⟨last, hlast, hlevel⟩ := hend
  have hnoneh := parses_iff.mp hh
  generalize hdeep : (sourceLines (indentSource levels s)).map
    (Line.shift (byteLength h.toList + 1)) = deeper
  -- neither the indentation nor the place behind `h` changes what a line says
  have hpairs : List.Forall₂ (Line.DeeperBy levels) (sourceLines s) deeper := by
    rw [← hdeep, List.forall₂_map_right_iff]
    exact sourceLines_indentSource levels s
  have hlevels : LevelsAlike (sourceLines s) deeper :=
    levelsAlike_of_strictMono strictMono_id (fun _ _ hlt => Nat.add_lt_add_right hlt levels)
      (hpairs.imp fun l _ hlm => ⟨l.indent, rfl, hlm.2⟩)
  have hnone := (noneShallower_congr hpairs hlevels).mp (parses_iff.mp hs)
  have halike := (group_alike hpairs hlevels).mono fun _ _ hlm => sameWords_of_text_eq hlm.1.symm
  have hdne : deeper ≠ [] := by
    intro hnil
    rw [hnil, List.forall₂_nil_right_iff] at hpairs
    exact hne hpairs
  have hroot : rootLevel deeper = rootLevel (sourceLines (indentSource levels s)) := by
    rw [← hdeep]
    cases sourceLines (indentSource levels s) <;> rfl
  rw [← hroot] at hdeeper
  have hjoined : rootLevel (sourceLines h ++ deeper) = rootLevel (sourceLines h) := by
    cases hl : sourceLines h with
    | nil =>
      rw [hl] at hlast
      cases hlast
    | cons first rest => rfl
  rw [rootBlock, sourceLines_append, hdeep]
  refine ⟨fun line hline => ?_, (group (rootLevel deeper) deeper).nodes, ?_, halike⟩
  · rw [hjoined]
    rcases List.mem_append.mp hline with hline | hline
    · exact hnoneh line hline
    · exact hdeeper.le.trans (hnone line hline)
  · rw [hjoined, nodes_group_append_block hnoneh hlast hlevel hdne hnone hdeeper]
    rfl

/-- **A script that is indented behind another one is run for each element of what that gives.**
The first script ends at its root, where it puts nothing aside, and the second one starts deeper
than that root. The joined script compiles if both do. It gives the results of the second script on
the elements of the list that the first one gives, in their order, or the error of the first element
that has one; anything but a list is refused, and an error of the first script is its own. -/
theorem runScript_append_indented (h s : String) (levels : Nat) (hh : Compiles h .builtin)
    (hs : Compiles s .builtin) (hne : sourceLines s ≠ []) (hend : EndsAtRoot h)
    (hsave : ¬SavesAtRoot h)
    (hdeeper : rootLevel (sourceLines h) < rootLevel (sourceLines (indentSource levels s))) :
    Compiles (h ++ "\n" ++ indentSource levels s) .builtin
    ∧ ∀ input, runScript (h ++ "\n" ++ indentSource levels s) .builtin input
        = runScript h .builtin input >>= runForEach s .builtin := by
  obtain ⟨hnoneh, herrorsh⟩ := compiles_iff.mp hh
  obtain ⟨hnones, herrorss⟩ := compiles_iff.mp hs
  obtain ⟨hnone, inner, hroot, halike⟩ := rootBlock_append_indented (parses_iff.mpr hnoneh)
    (parses_iff.mpr hnones) hne hend hdeeper
  have hinner : sourceErrors (indentSource levels s) .builtin = [] :=
    (flatMap_lineErrors_eq_nil_iff .builtin (sourceLines_indentSource levels s)
      fun _ _ hlm => sameWords_of_text_eq hlm.1.symm).mp herrorss
  have hjoined : Compiles (h ++ "\n" ++ indentSource levels s) .builtin := by
    refine compiles_iff.mpr ⟨hnone, ?_⟩
    rw [sourceErrors_append, herrorsh, hinner]
    rfl
  refine ⟨hjoined, fun input => ?_⟩
  -- the block is the tree of `s` itself up to levels and places, so its steps are those of `s`
  have hsteps : (compileNodes .builtin [.block inner]).steps
      = [.forEach (.pipe (compileNodes .builtin (rootBlock s)).steps)] := by
    have herrors : (compileNodes .builtin (rootBlock s)).errors = [] := by
      rw [errors_compileNodes, lines_rootBlock hnones]
      exact herrorss
    rw [← steps_eq_of_alike (.block halike .nil), compileNodes_block, if_pos herrors]
    simp
  have hkeeps := keepsContext_of_not_savesAtRoot hnoneh hsave
  rw [runScript_of_compiles hjoined, hroot, steps_compileNodes_append, hsteps,
    Step.runPipe_append hkeeps, runScript_of_compiles hh]
  cases Step.runPipe (compileNodes .builtin (rootBlock h)).steps Context.fresh input with
  | error e => rfl
  | ok value => exact (runForEach_of_compiles hs value).symm

/-- The parts of a text, each of them trimmed. -/
theorem runScript_append_indented_split_trim :
    Compiles "split ,\n  trim" .builtin
    ∧ ∀ input, runScript "split ,\n  trim" .builtin input
        = runScript "split ," .builtin input >>= runForEach "trim" .builtin :=
  runScript_append_indented "split ," "trim" 1 (by decide) (by decide) (by decide)
    ⟨_, rfl, rfl⟩ (not_savesAtRoot_of_lines (by decide)) (by decide)

end CheckScript
