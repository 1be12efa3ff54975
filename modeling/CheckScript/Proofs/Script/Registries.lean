import CheckScript.Command.Builtin
import CheckScript.Proofs.Dict.Bindings
import CheckScript.Proofs.Script.Compiling

/-!
# What a script sees of a registry

A registry is what the last registration of each name made of it (`get?_registerAll_eq_some_iff`);
the order of the registrations, and those that were replaced, leave no trace.

Of a registry, a script sees the commands that its lines call. With two registries that agree on
them it has the same steps (`steps_eq_of_agree`) and the same errors, up to the names that an error
about an unknown command lists (`flatMap_lineErrors_sameButNotes`).

## Main statement

* `registries_matter_by_use`: both of this, for sources and their runs.
-/

namespace CheckScript

variable {r r' : Registry}

/-! ## Registrations -/

namespace Registry

/-- The registry that is left by registrations, the first of them in front. -/
def registerAll (registrations : List (String × Command)) : Registry :=
  registrations.foldl (fun registry pair => registry.register pair.1 pair.2.form pair.2.build) empty

theorem registerAll_eq_ofList (registrations : List (String × Command)) :
    registerAll registrations = Dict.ofList registrations := rfl

/-- The commands of every script are registered one by one. -/
example : builtin = registerAll [("echo", ⟨.escaped, Command.echo⟩),
    ("extract", ⟨.raw, Command.extract⟩), ("parseDate", ⟨.escaped, Command.parseDate⟩),
    ("split", ⟨.escaped, Command.split⟩), ("join", ⟨.escaped, Command.join⟩),
    ("trim", ⟨.escaped, Command.trim⟩), ("template", ⟨.escaped, Command.template⟩),
    ("save", ⟨.escaped, Command.save⟩), ("load", ⟨.escaped, Command.load⟩)] := rfl

/-- The last registration of the name is that of the command. -/
abbrev LastRegisters (registrations : List (String × Command)) (name : String) (command : Command) :
    Prop :=
  Dict.LastBinds registrations name command

/-- What a registry answers after registrations. -/
structure Answers (registry : Registry) (registrations : List (String × Command)) : Prop where
  /-- The names are in strictly increasing order, so that none is there twice. -/
  sorted : registry.names.Pairwise (· < ·)
  /-- They are the names that were registered. -/
  mem_names : ∀ name, name ∈ registry.names ↔ name ∈ registrations.map Prod.fst
  contains : ∀ name, registry.contains name = true ↔ name ∈ registrations.map Prod.fst
  /-- The command of a name is the one that was registered last. -/
  get : ∀ name command,
    registry.get? name = some command ↔ LastRegisters registrations name command

theorem answers_registerAll (registrations : List (String × Command)) :
    (registerAll registrations).Answers registrations := by
  rw [registerAll_eq_ofList]
  constructor
  case sorted => exact Dict.pairwise_keys _
  case mem_names => exact fun name => Dict.mem_keys_ofList
  case contains =>
    intro name
    rw [← Dict.mem_keys_ofList, Dict.mem_keys_iff, Dict.contains, Option.isSome_iff_exists]
  case get => exact fun name command => Dict.get?_ofList_eq_some_iff

/-- **Only the last registration of each name counts.** -/
theorem registerAll_eq_of_lastRegisters {xs ys : List (String × Command)}
    (h : ∀ name command, LastRegisters xs name command ↔ LastRegisters ys name command) :
    registerAll xs = registerAll ys :=
  Dict.ofList_eq_ofList_iff.mpr h

/-- What a diagnostic says about the commands of the registry. -/
def available (registry : Registry) : String :=
  "available commands: " ++ ", ".intercalate registry.names

end Registry

/-! ## Lines -/

/-- The registries have the same command for the line, or both have none; a comment needs none. -/
def Line.AgreeOn (r r' : Registry) (line : Line) : Prop :=
  line.isComment = false → r.get? line.command = r'.get? line.command

/-- The errors are the same, but each lists the commands of its own registry if it lists any. -/
structure CompileError.SameButNotes (r r' : Registry) (e e' : CompileError) : Prop where
  message : e.message = e'.message
  span : e.span = e'.span
  notes : e.notes = e'.notes ∨ e.notes = [r.available] ∧ e'.notes = [r'.available]

theorem compileLine_of_agree {line : Line} (h : r.get? line.command = r'.get? line.command) :
    (∃ step, compileLine r line = .ok step ∧ compileLine r' line = .ok step)
      ∨ ∃ e e', compileLine r line = .error e ∧ compileLine r' line = .error e'
        ∧ CompileError.SameButNotes r r' e e' := by
  unfold compileLine
  rw [← h]
  cases r.get? line.command with
  | none => exact .inr ⟨_, _, rfl, rfl, rfl, rfl, .inr ⟨rfl, rfl⟩⟩
  | some command =>
    simp only
    cases command.build (line.argument.map command.form.decode) with
    | ok step => exact .inl ⟨step, rfl, rfl⟩
    | error cause => exact .inr ⟨_, _, rfl, rfl, rfl, rfl, .inl rfl⟩

theorem lineSteps_of_agree {line : Line} (h : line.AgreeOn r r') :
    lineSteps r line = lineSteps r' line := by
  unfold lineSteps
  split
  · rfl
  · next hcomment =>
    rcases compileLine_of_agree (h (by simpa using hcomment)) with
      ⟨step, hstep, hstep'⟩ | ⟨e, e', he, he', -⟩
    · rw [hstep, hstep']
    · rw [he, he']

theorem lineErrors_of_agree {line : Line} (h : line.AgreeOn r r') :
    List.Forall₂ (CompileError.SameButNotes r r') (lineErrors r line) (lineErrors r' line) := by
  unfold lineErrors
  split
  · exact .nil
  · next hcomment =>
    rcases compileLine_of_agree (h (by simpa using hcomment)) with
      ⟨step, hstep, hstep'⟩ | ⟨e, e', he, he', hsame⟩
    · rw [hstep, hstep']
      exact .nil
    · rw [he, he']
      exact .cons hsame .nil

/-! ## Trees -/

/-- **Registries that agree on some lines find the same errors in them.** -/
theorem flatMap_lineErrors_sameButNotes {lines : List Line}
    (h : ∀ line ∈ lines, line.AgreeOn r r') :
    List.Forall₂ (CompileError.SameButNotes r r') (lines.flatMap (lineErrors r))
      (lines.flatMap (lineErrors r')) := by
  induction lines with
  | nil => exact .nil
  | cons line rest ih =>
    obtain ⟨hline, hrest⟩ := List.forall_mem_cons.mp h
    rw [List.flatMap_cons, List.flatMap_cons]
    exact List.rel_append (lineErrors_of_agree hline) (ih hrest)

theorem flatMap_lineErrors_eq_nil_iff_of_agree {lines : List Line}
    (h : ∀ line ∈ lines, line.AgreeOn r r') :
    lines.flatMap (lineErrors r) = [] ↔ lines.flatMap (lineErrors r') = [] := by
  have hlength := (flatMap_lineErrors_sameButNotes h).length_eq
  rw [← List.length_eq_zero_iff, hlength, List.length_eq_zero_iff]

/-- **Registries that agree on the lines of a tree make the same steps of it.** -/
theorem steps_eq_of_agree {nodes : Block} (h : ∀ line ∈ Block.lines nodes, line.AgreeOn r r') :
    (compileNodes r nodes).steps = (compileNodes r' nodes).steps := by
  induction nodes using Block.induction with
  | nil => simp
  | line l rest ih =>
    simp only [Block.lines_cons, Node.lines_line, List.cons_append, List.nil_append,
      List.forall_mem_cons] at h
    simp only [compileNodes_line, lineSteps_of_agree h.1, ih h.2]
  | block inner rest ihInner ih =>
    simp only [Block.lines_cons, Node.lines_block, List.forall_mem_append] at h
    -- the sub-block has a step with one registry iff it has one with the other
    have hnil : (compileNodes r inner).errors = [] ↔ (compileNodes r' inner).errors = [] := by
      rw [errors_compileNodes, errors_compileNodes]
      exact flatMap_lineErrors_eq_nil_iff_of_agree h.1
    simp only [compileNodes_block, ihInner h.1, ih h.2, hnil]

/-! ## Sources -/

/-- The results are the same, but for the commands that compile errors list. -/
inductive SameButNotes (r r' : Registry) {α : Type} :
    Except ScriptError α → Except ScriptError α → Prop
  | ok (a : α) : SameButNotes r r' (.ok a) (.ok a)
  | parse (e : ParseError) : SameButNotes r r' (.error (.parse e)) (.error (.parse e))
  | compile {es es' : List CompileError} :
    List.Forall₂ (CompileError.SameButNotes r r') es es' →
    SameButNotes r r' (.error (.compile es)) (.error (.compile es'))
  | runtime (e : RuntimeError) : SameButNotes r r' (.error (.runtime e)) (.error (.runtime e))

variable {source : String}

theorem compile_sameButNotes (h : ∀ line ∈ sourceLines source, line.AgreeOn r r') :
    SameButNotes r r' (compile source r) (compile source r') := by
  by_cases hnone : NoneShallower (sourceLines source)
  · have hsteps : (compileNodes r (rootBlock source)).steps
        = (compileNodes r' (rootBlock source)).steps := by
      refine steps_eq_of_agree ?_
      rw [lines_rootBlock hnone]
      exact h
    have herrors : sourceErrors source r = [] ↔ sourceErrors source r' = [] :=
      flatMap_lineErrors_eq_nil_iff_of_agree h
    rw [compile_of_noneShallower hnone, compile_of_noneShallower hnone, hsteps]
    by_cases hnil : sourceErrors source r = []
    · rw [if_pos hnil, if_pos (herrors.mp hnil)]
      exact .ok _
    · rw [if_neg hnil, if_neg fun hnil' => hnil (herrors.mpr hnil')]
      exact .compile (flatMap_lineErrors_sameButNotes h)
  · unfold compile
    cases hparse : parse source 0 with
    | ok script => exact absurd (parse_eq_ok_iff.mp hparse).1 hnone
    | error e => exact .parse e

theorem runScript_sameButNotes (h : ∀ line ∈ sourceLines source, line.AgreeOn r r')
    (input : Value) :
    SameButNotes r r' (runScript source r input) (runScript source r' input) := by
  have hcompile := compile_sameButNotes h
  unfold runScript
  generalize compile source r = compiled, compile source r' = compiled' at hcompile
  cases hcompile with
  | ok step =>
    show SameButNotes r r' ((step.result input).mapError .runtime)
      ((step.result input).mapError .runtime)
    cases step.result input with
    | ok value => exact .ok value
    | error e => exact .runtime e
  | parse e => exact .parse e
  | compile hsame => exact .compile hsame
  | runtime e => exact .runtime e

/-- **Registries matter by the commands that a script uses.** After any registrations a registry
answers with the last one of each name, its names in order; so registrations with the same last ones
cannot be told apart, neither by the answers nor by any script. And with registries that agree on
the commands of its lines, comments left out, a source has the same step or the same errors, and the
same result on every input; only the commands that errors list may differ. -/
theorem registries_matter_by_use :
    (∀ registrations, (Registry.registerAll registrations).Answers registrations)
    ∧ (∀ xs ys : List (String × Command),
      (∀ name command,
        Registry.LastRegisters xs name command ↔ Registry.LastRegisters ys name command) →
      (Registry.registerAll xs).names = (Registry.registerAll ys).names
        ∧ (∀ name, (Registry.registerAll xs).contains name = (Registry.registerAll ys).contains name
          ∧ (Registry.registerAll xs).get? name = (Registry.registerAll ys).get? name)
        ∧ (Registry.registerAll xs).shown = (Registry.registerAll ys).shown
        ∧ ∀ source,
          compile source (Registry.registerAll xs) = compile source (Registry.registerAll ys)
          ∧ ∀ input, runScript source (Registry.registerAll xs) input
            = runScript source (Registry.registerAll ys) input)
    ∧ ∀ (source : String) (r r' : Registry),
      (∀ line ∈ sourceLines source, line.isComment = false →
        r.get? line.command = r'.get? line.command) →
      SameButNotes r r' (compile source r) (compile source r')
        ∧ ∀ input, SameButNotes r r' (runScript source r input) (runScript source r' input) := by
  refine ⟨Registry.answers_registerAll, fun xs ys h => ?_, fun source r r' h => ?_⟩
  · rw [Registry.registerAll_eq_of_lastRegisters h]
    exact ⟨rfl, fun name => ⟨rfl, rfl⟩, rfl, fun source => ⟨rfl, fun input => rfl⟩⟩
  · exact ⟨compile_sameButNotes h, runScript_sameButNotes h⟩

/-- A registry with two of the commands of every script. -/
def echoRegistry : Registry :=
  Registry.registerAll [("trim", ⟨.raw, Command.join⟩), ("echo", ⟨.escaped, Command.echo⟩),
    ("trim", ⟨.escaped, Command.trim⟩)]

/-- The replaced `trim` is not missed, and neither are the commands that only a comment names; the
error about `shout` lists other commands. -/
theorem registries_matter_by_use_echoRegistry :
    echoRegistry.shown = (Registry.registerAll [("trim", ⟨.escaped, Command.trim⟩),
        ("echo", ⟨.escaped, Command.echo⟩)]).shown
      ∧ SameButNotes .builtin echoRegistry (compile "echo a\n# load b\n  trim\nshout" .builtin)
        (compile "echo a\n# load b\n  trim\nshout" echoRegistry) := by
  constructor
  · have hsame : echoRegistry = Registry.registerAll [("trim", ⟨.escaped, Command.trim⟩),
        ("echo", ⟨.escaped, Command.echo⟩)] := rfl
    exact (registries_matter_by_use.2.1 _ _ (Dict.ofList_eq_ofList_iff.mp hsame)).2.2.1
  · refine (registries_matter_by_use.2.2 _ .builtin echoRegistry fun line hline _ => ?_).1
    have hlines : sourceLines "echo a\n# load b\n  trim\nshout"
        = [⟨"echo a", 0, ⟨0, 6⟩⟩, ⟨"# load b", 0, ⟨7, 15⟩⟩, ⟨"trim", 1, ⟨18, 22⟩⟩,
          ⟨"shout", 0, ⟨23, 28⟩⟩] := by decide
    rw [hlines] at hline
    simp only [List.mem_cons, List.not_mem_nil, or_false] at hline
    rcases hline with rfl | rfl | rfl | rfl <;> rfl

end CheckScript
