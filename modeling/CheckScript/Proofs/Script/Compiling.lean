import CheckScript.Proofs.Source.Alike
import CheckScript.Script

/-!
# What compiling makes of a source

The errors of a tree are those of its lines in order, whatever its shape (`errors_compileNodes`), so
a source that has a tree compiles iff none of its lines has an error (`compile_eq_ok_iff`), and
otherwise fails with the errors of all of them (`compile_eq_error`).

A line is compiled by its words alone. Alike trees of lines with the same words have the same steps
(`steps_eq_of_alike`) and corresponding errors (`lineErrors_alike`).
-/

namespace CheckScript

variable {registry : Registry}

/-! ## Lines -/

/-- The steps that a line adds to its block: one, or none for a comment or an error. -/
def lineSteps (registry : Registry) (line : Line) : List Step :=
  if line.isComment then []
  else
    match compileLine registry line with
    | .ok step => [step]
    | .error _ => []

/-- The errors of a line: none, or the one for which it has no step. -/
def lineErrors (registry : Registry) (line : Line) : List CompileError :=
  if line.isComment then []
  else
    match compileLine registry line with
    | .ok _ => []
    | .error e => [e]

/-- The step of a line is made by its command, of its argument as the command takes it. -/
theorem exists_build_of_compileLine {line : Line} {step : Step}
    (h : compileLine registry line = .ok step) :
    ∃ command, registry.get? line.command = some command
      ∧ command.build (line.argument.map command.form.decode) = .ok step := by
  rw [compileLine] at h
  cases hget : registry.get? line.command with
  | none =>
    rw [hget] at h
    cases h
  | some command =>
    rw [hget] at h
    cases hbuild : command.build (line.argument.map command.form.decode) with
    | error e =>
      simp only [hbuild] at h
      cases h
    | ok made =>
      simp only [hbuild] at h
      cases h
      exact ⟨command, rfl, hbuild⟩

/-! ## Trees -/

@[simp] theorem compileNodes_nil : compileNodes registry [] = ⟨[], []⟩ := by rw [compileNodes]

theorem compileNodes_line (l : Line) (rest : Block) :
    compileNodes registry (.line l :: rest)
      = ⟨lineSteps registry l ++ (compileNodes registry rest).steps,
          lineErrors registry l ++ (compileNodes registry rest).errors⟩ := by
  rw [compileNodes, compileNode, lineSteps, lineErrors]
  split
  · rfl
  · cases compileLine registry l <;> rfl

theorem compileNodes_block (inner rest : Block) :
    compileNodes registry (.block inner :: rest)
      = ⟨(if (compileNodes registry inner).errors = []
            then [.forEach (.pipe (compileNodes registry inner).steps)] else [])
            ++ (compileNodes registry rest).steps,
          (compileNodes registry inner).errors ++ (compileNodes registry rest).errors⟩ := by
  rw [compileNodes, compileNode]
  cases compileNodes registry inner with
  | mk steps errors => cases errors <;> rfl

/-- **The errors of a tree are those of its lines, all of them and in order.** -/
theorem errors_compileNodes (nodes : Block) :
    (compileNodes registry nodes).errors = (Block.lines nodes).flatMap (lineErrors registry) := by
  induction nodes using Block.induction with
  | nil => simp
  | line l rest ih => simp [compileNodes_line, ih]
  | block inner rest ihInner ih =>
    simp only [compileNodes_block, ihInner, ih, Block.lines_cons, Node.lines_block,
      List.flatMap_append]

theorem steps_compileNodes_append (xs ys : Block) :
    (compileNodes registry (xs ++ ys)).steps
      = (compileNodes registry xs).steps ++ (compileNodes registry ys).steps := by
  induction xs using Block.induction with
  | nil => simp
  | line l rest ih => simp only [List.cons_append, compileNodes_line, ih, List.append_assoc]
  | block inner rest _ ih => simp only [List.cons_append, compileNodes_block, ih, List.append_assoc]

theorem compileBlock_eq (block : Block) :
    compileBlock registry block
      = if (compileNodes registry block).errors = []
        then .ok (.pipe (compileNodes registry block).steps)
        else .error (compileNodes registry block).errors := by
  rw [compileBlock]
  cases compileNodes registry block with
  | mk steps errors => cases errors <;> rfl

/-! ## Sources -/

/-- The tree of a source, if it has one. -/
def rootBlock (source : String) : Block :=
  (group (rootLevel (sourceLines source)) (sourceLines source)).nodes

/-- The source has a tree. -/
def Parses (source : String) : Prop := ∃ script, parse source 0 = .ok script

/-- The source compiles with the commands of the registry. -/
def Compiles (source : String) (registry : Registry) : Prop :=
  ∃ step, compile source registry = .ok step

/-- The errors of all lines of a source, in order. -/
def sourceErrors (source : String) (registry : Registry) : List CompileError :=
  (sourceLines source).flatMap (lineErrors registry)

theorem parse_eq_ok_iff {source : String} {file : Nat} {script : Script} :
    parse source file = .ok script
      ↔ NoneShallower (sourceLines source) ∧ script = ⟨rootBlock source, file⟩ := by
  have h : ∀ root, groupAll (sourceLines source) = .ok root
      ↔ NoneShallower (sourceLines source) ∧ root = rootBlock source :=
    fun root => groupAll_eq_ok_iff
  rw [parse]
  cases hg : groupAll (sourceLines source) with
  | error e =>
    have hnot : ¬NoneShallower (sourceLines source) := by
      intro hnone
      have := (h (rootBlock source)).mpr ⟨hnone, rfl⟩
      rw [hg] at this
      cases this
    simp [Except.map, hnot]
  | ok root =>
    obtain ⟨hnone, rfl⟩ := (h root).mp hg
    simp [Except.map, hnone, eq_comm]

theorem parses_iff {source : String} : Parses source ↔ NoneShallower (sourceLines source) := by
  simp [Parses, parse_eq_ok_iff]

instance (source : String) : Decidable (Parses source) := decidable_of_iff _ parses_iff.symm

/-- The lines of the tree of a source are the lines of the source. -/
theorem lines_rootBlock {source : String} (h : NoneShallower (sourceLines source)) :
    Block.lines (rootBlock source) = sourceLines source := by
  have hlines := lines_group (rootLevel (sourceLines source)) (sourceLines source)
  rw [left_group_eq_nil_iff.mpr h, List.append_nil] at hlines
  exact hlines

theorem compile_of_noneShallower {source : String} (h : NoneShallower (sourceLines source)) :
    compile source registry
      = if sourceErrors source registry = []
        then .ok (.pipe (compileNodes registry (rootBlock source)).steps)
        else .error (.compile (sourceErrors source registry)) := by
  have herrors : (compileNodes registry (rootBlock source)).errors
      = sourceErrors source registry := by
    rw [errors_compileNodes, lines_rootBlock h, sourceErrors]
  have hparse : parse source 0 = .ok ⟨rootBlock source, 0⟩ := parse_eq_ok_iff.mpr ⟨h, rfl⟩
  rw [compile, hparse]
  show (compileBlock registry (rootBlock source)).mapError ScriptError.compile = _
  rw [compileBlock_eq, herrors]
  split <;> rfl

theorem compile_of_not_noneShallower (registry : Registry) {source : String}
    (h : ¬NoneShallower (sourceLines source)) :
    ∃ e, compile source registry = .error (.parse e) := by
  rw [compile]
  cases hp : parse source 0 with
  | error e => exact ⟨e, rfl⟩
  | ok script => exact absurd (parse_eq_ok_iff.mp hp).1 h

/-- **A source compiles iff it has a tree and none of its lines has an error.** -/
theorem compile_eq_ok_iff {source : String} {step : Step} :
    compile source registry = .ok step
      ↔ NoneShallower (sourceLines source) ∧ sourceErrors source registry = []
        ∧ step = .pipe (compileNodes registry (rootBlock source)).steps := by
  by_cases h : NoneShallower (sourceLines source)
  · rw [compile_of_noneShallower h]
    split <;> simp_all [eq_comm]
  · obtain ⟨e, he⟩ := compile_of_not_noneShallower registry h
    simp [he, h]

theorem compiles_iff {source : String} :
    Compiles source registry
      ↔ NoneShallower (sourceLines source) ∧ sourceErrors source registry = [] := by
  simp [Compiles, compile_eq_ok_iff]

instance (source : String) (registry : Registry) : Decidable (Compiles source registry) :=
  decidable_of_iff _ compiles_iff.symm

/-- **A source with a tree that does not compile fails with the errors of all its lines.** -/
theorem compile_eq_error {source : String} (h : NoneShallower (sourceLines source))
    (hnot : ¬Compiles source registry) :
    compile source registry = .error (.compile (sourceErrors source registry)) := by
  rw [compile_of_noneShallower h, if_neg fun hnil => hnot (compiles_iff.mpr ⟨h, hnil⟩)]

/-- A source with one line, not a comment, is compiled by compiling that line. -/
theorem compile_of_sole_line {source : String} {line : Line} (hlines : sourceLines source = [line])
    (hcomment : line.isComment = false) :
    compile source registry
      = match compileLine registry line with
        | .ok step => .ok (.pipe [step])
        | .error e => .error (.compile [e]) := by
  have hnone : NoneShallower (sourceLines source) := by simp [hlines, NoneShallower, rootLevel]
  have hroot : rootBlock source = [.line line] := by
    rw [rootBlock, hlines]
    show (group line.indent [line]).nodes = _
    rw [nodes_group_of_eq, group_nil]
  rw [compile_of_noneShallower hnone, hroot, sourceErrors, hlines, List.flatMap_singleton,
    compileNodes_line, compileNodes_nil, List.append_nil, lineErrors, lineSteps, hcomment]
  cases compileLine registry line with
  | ok step => rfl
  | error e => rfl

/-! ## Lines with the same words -/

/-- The lines have the same words, and both are comments or neither is. -/
structure SameWords (l m : Line) : Prop where
  words : l.words = m.words
  comment : l.isComment = m.isComment

theorem sameWords_of_text_eq {l m : Line} (h : l.text = m.text) : SameWords l m := by
  refine ⟨?_, ?_⟩
  · rw [Line.words, Line.words, h]
  · rw [Line.isComment, Line.isComment, h]

/-- The same error for corresponding lines. -/
inductive CompileError.Alike (R : Line → Line → Prop) : CompileError → CompileError → Prop
  | unknownCommand {l m : Line} (available : List String) :
    R l m → CompileError.Alike R (.unknownCommand l available) (.unknownCommand m available)
  | refused {l m : Line} (cause : CommandError) :
    R l m → CompileError.Alike R (.refused l cause) (.refused m cause)

theorem SameWords.command {l m : Line} (h : SameWords l m) : l.command = m.command := by
  rw [Line.command, Line.command, h.words]

theorem SameWords.argument {l m : Line} (h : SameWords l m) : l.argument = m.argument := by
  rw [Line.argument, Line.argument, h.words]

theorem CompileError.Alike.message {e e' : CompileError} (h : CompileError.Alike SameWords e e') :
    e.message = e'.message := by
  cases h with
  | @unknownCommand l m _ h =>
    show "unknown command '" ++ l.command ++ "'" = "unknown command '" ++ m.command ++ "'"
    rw [h.command]
  | refused _ _ => rfl

/-- Lines with the same words have the same step, or the same error. -/
theorem compileLine_alike (registry : Registry) {R : Line → Line → Prop} {l m : Line} (hR : R l m)
    (h : SameWords l m) :
    (∃ step, compileLine registry l = .ok step ∧ compileLine registry m = .ok step)
      ∨ ∃ e e', compileLine registry l = .error e ∧ compileLine registry m = .error e'
        ∧ CompileError.Alike R e e' := by
  simp only [compileLine, ← h.command, ← h.argument]
  cases registry.get? l.command with
  | none => exact .inr ⟨_, _, rfl, rfl, .unknownCommand _ hR⟩
  | some command =>
    simp only
    cases command.build (l.argument.map command.form.decode) with
    | ok step => exact .inl ⟨step, rfl, rfl⟩
    | error cause => exact .inr ⟨_, _, rfl, rfl, .refused cause hR⟩

theorem lineSteps_eq {l m : Line} (h : SameWords l m) :
    lineSteps registry l = lineSteps registry m := by
  rw [lineSteps, lineSteps, h.comment]
  split
  · rfl
  · rcases compileLine_alike registry h h with
      ⟨step, hl, hm⟩ | ⟨e, e', hl, hm, -⟩ <;> rw [hl, hm]

theorem lineErrors_alike (registry : Registry) {R : Line → Line → Prop} {l m : Line} (hR : R l m)
    (h : SameWords l m) :
    List.Forall₂ (CompileError.Alike R) (lineErrors registry l) (lineErrors registry m) := by
  rw [lineErrors, lineErrors, h.comment]
  split
  · exact .nil
  · rcases compileLine_alike registry hR h with ⟨step, hl, hm⟩ | ⟨e, e', hl, hm, he⟩
    · rw [hl, hm]
      exact .nil
    · rw [hl, hm]
      exact .cons he .nil

/-- **Corresponding lines with the same words have corresponding errors.** -/
theorem flatMap_lineErrors_alike (registry : Registry) {R : Line → Line → Prop} {ls ms : List Line}
    (h : List.Forall₂ R ls ms) (hR : ∀ l m, R l m → SameWords l m) :
    List.Forall₂ (CompileError.Alike R) (ls.flatMap (lineErrors registry))
      (ms.flatMap (lineErrors registry)) := by
  induction h with
  | nil => exact .nil
  | cons hlm _ ih =>
    rw [List.flatMap_cons, List.flatMap_cons]
    exact List.rel_append (lineErrors_alike registry hlm (hR _ _ hlm)) ih

theorem flatMap_lineErrors_eq_nil_iff (registry : Registry) {R : Line → Line → Prop}
    {ls ms : List Line} (h : List.Forall₂ R ls ms) (hR : ∀ l m, R l m → SameWords l m) :
    ls.flatMap (lineErrors registry) = [] ↔ ms.flatMap (lineErrors registry) = [] := by
  have hlength := (flatMap_lineErrors_alike registry h hR).length_eq
  rw [← List.length_eq_zero_iff, hlength, List.length_eq_zero_iff]

/-- **Alike trees of lines with the same words have the same steps.** -/
theorem steps_eq_of_alike {xs ys : Block} (h : Block.Alike SameWords xs ys) :
    (compileNodes registry xs).steps = (compileNodes registry ys).steps := by
  induction h with
  | nil => rfl
  | line hlm _ ih => simp only [compileNodes_line, lineSteps_eq hlm, ih]
  | @block inner inner' xs ys hInner _ ihInner ih =>
    -- a sub-block adds its step only if it has no errors, and then neither has the other one
    have hnil : (compileNodes registry inner).errors = []
        ↔ (compileNodes registry inner').errors = [] := by
      rw [errors_compileNodes, errors_compileNodes]
      exact flatMap_lineErrors_eq_nil_iff registry hInner.lines fun _ _ h => h
    simp only [compileNodes_block, ihInner, ih, hnil]

end CheckScript
