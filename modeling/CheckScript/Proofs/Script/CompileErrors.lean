import CheckScript.Command.Builtin
import CheckScript.Proofs.Script.Compiling
import CheckScript.Proofs.Source.Places

/-!
# The errors of a script that does not compile

A script that has a tree compiles iff every line that is not a comment is accepted: its command is
registered and takes its argument. Otherwise there is one error for each line that is not, in the
order of the lines, and it stands at the place of what it is about (`compile_errors_complete`).
-/

namespace CheckScript

open Text

variable {registry : Registry} {source : String} {line : Line} {e : CompileError}

/-! ## Lines that are not accepted -/

/-- The command of the line is registered and makes a step of its argument. -/
def Line.Accepted (registry : Registry) (line : Line) : Prop :=
  ∃ command step, registry.get? line.command = some command
    ∧ command.build (line.argument.map command.form.decode) = .ok step

/-- The line is no comment, and is not accepted. -/
def Line.Offends (registry : Registry) (line : Line) : Prop :=
  line.isComment = false ∧ ¬line.Accepted registry

/-- The error says what is wrong with the line, at its place in the source. -/
inductive CompileError.Reports (registry : Registry) (source : String) (line : Line)
    (e : CompileError) : Prop
  /-- The command is not registered; the error stands at the command and lists those that are. -/
  | unknown :
    registry.get? line.command = none →
    e.message = "unknown command '" ++ line.command ++ "'" →
    e.notes = ["available commands: " ++ ", ".intercalate registry.names] →
    e.span.bytes source = line.command.toUTF8 →
    CompileError.Reports registry source line e
  /-- The command refuses the argument; the error stands at the whole line. -/
  | refused {command : Command} {cause : CommandError} :
    registry.get? line.command = some command →
    command.build (line.argument.map command.form.decode) = .error cause →
    e.message = cause.message →
    e.notes = [] →
    e.span.bytes source = line.text.toUTF8 →
    CompileError.Reports registry source line e

theorem accepted_iff : line.Accepted registry ↔ ∃ step, compileLine registry line = .ok step := by
  rw [Line.Accepted, compileLine]
  cases registry.get? line.command with
  | none => simp
  | some command =>
    simp only [Option.some.injEq, exists_and_left, exists_eq_left']
    cases command.build (line.argument.map command.form.decode) with
    | ok step => simp [Except.mapError]
    | error cause => simp [Except.mapError]

/-- A line has an error iff it offends, and only one. -/
theorem lineErrors_cases (registry : Registry) (line : Line) :
    (¬line.Offends registry ∧ lineErrors registry line = [])
      ∨ ∃ e, line.Offends registry ∧ compileLine registry line = .error e
        ∧ lineErrors registry line = [e] := by
  rw [lineErrors, Line.Offends, accepted_iff]
  cases line.isComment with
  | true => exact .inl ⟨by simp, rfl⟩
  | false =>
    cases compileLine registry line with
    | ok step => exact .inl ⟨by simp, rfl⟩
    | error e => exact .inr ⟨e, by simp, rfl, rfl⟩

instance (registry : Registry) (line : Line) : Decidable (line.Offends registry) :=
  decidable_of_iff (lineErrors registry line ≠ []) (by
    rcases lineErrors_cases registry line with ⟨hnot, hnil⟩ | ⟨e, hoffends, -, hone⟩
    · simp [hnot, hnil]
    · simp [hoffends, hone])

theorem lineErrors_eq_nil_iff :
    lineErrors registry line = [] ↔ (line.isComment = false → line.Accepted registry) := by
  rcases lineErrors_cases registry line with ⟨hnot, hnil⟩ | ⟨e, hoffends, -, hone⟩
  · simp only [hnil, true_iff]
    intro hcomment
    by_contra haccepted
    exact hnot ⟨hcomment, haccepted⟩
  · simp only [hone, List.cons_ne_nil, false_iff]
    exact fun haccepted => hoffends.2 (haccepted hoffends.1)

/-- The ways in which a line has an error: its command is not registered, or refuses its
argument. -/
theorem compileLine_eq_error_cases (h : compileLine registry line = .error e) :
    (registry.get? line.command = none ∧ e = .unknownCommand line registry.names)
      ∨ ∃ command cause, registry.get? line.command = some command
        ∧ command.build (line.argument.map command.form.decode) = .error cause
        ∧ e = .refused line cause := by
  rw [compileLine] at h
  cases hget : registry.get? line.command with
  | none =>
    rw [hget] at h
    cases h
    exact .inl ⟨rfl, rfl⟩
  | some command =>
    rw [hget] at h
    cases hbuild : command.build (line.argument.map command.form.decode) with
    | ok step =>
      simp only [hbuild] at h
      cases h
    | error cause =>
      simp only [hbuild] at h
      cases h
      exact .inr ⟨command, cause, rfl, hbuild, rfl⟩

/-! ## Places -/

theorem reports_of_compileLine (hline : line ∈ sourceLines source)
    (h : compileLine registry line = .error e) : e.Reports registry source line := by
  rcases compileLine_eq_error_cases h with ⟨hget, rfl⟩ | ⟨command, cause, hget, hbuild, rfl⟩
  · exact .unknown hget rfl rfl (bytes_of_cuts (cuts_commandSpan hline))
  · exact .refused hget hbuild rfl rfl (bytes_of_cuts (cuts_of_mem_sourceLines hline))

/-- The span of an error of a line is not empty and stands within the line. -/
theorem span_of_compileLine (hline : line ∈ sourceLines source)
    (h : compileLine registry line = .error e) :
    line.span.start ≤ e.span.start ∧ e.span.start < e.span.stop ∧ e.span.stop ≤ line.span.stop := by
  have hproper := proper_of_mem_sourceLines hline
  obtain ⟨before, after, -, hstart, hstop⟩ := cuts_of_mem_sourceLines hline
  rcases compileLine_eq_error_cases h with ⟨-, rfl⟩ | ⟨command, cause, -, -, rfl⟩
  · obtain ⟨hne, hfront⟩ := hproper.starts_with_command
    have hcommand := byteLength_pos hne
    have hle := byteLength_mono hfront
    show line.span.start ≤ line.span.start
      ∧ line.span.start < line.span.start + byteLength line.command.toList
      ∧ line.span.start + byteLength line.command.toList ≤ line.span.stop
    omega
  · have htext := byteLength_pos hproper.ne_nil
    show line.span.start ≤ line.span.start ∧ line.span.start < line.span.stop
      ∧ line.span.stop ≤ line.span.stop
    omega

theorem span_of_mem_lineErrors (hline : line ∈ sourceLines source)
    (h : e ∈ lineErrors registry line) :
    line.span.start ≤ e.span.start ∧ e.span.start < e.span.stop ∧ e.span.stop ≤ line.span.stop := by
  rcases lineErrors_cases registry line with ⟨-, hnil⟩ | ⟨e', -, herror, hone⟩
  · rw [hnil] at h
    cases h
  · rw [hone] at h
    obtain rfl := List.mem_singleton.mp h
    exact span_of_compileLine hline herror

/-! ## All errors -/

/-- **There is one error for each line that offends, in the order of the lines.** -/
theorem forall₂_reports {lines : List Line} (h : lines ⊆ sourceLines source) :
    List.Forall₂ (fun line e => e.Reports registry source line)
      (lines.filter (·.Offends registry)) (lines.flatMap (lineErrors registry)) := by
  induction lines with
  | nil => exact .nil
  | cons line rest ih =>
    have hrest := ih fun l hl => h (List.mem_cons_of_mem _ hl)
    rw [List.flatMap_cons]
    rcases lineErrors_cases registry line with ⟨hnot, hnil⟩ | ⟨e, hoffends, herror, hone⟩
    · rw [hnil, List.filter_cons_of_neg (by simpa using hnot)]
      exact hrest
    · rw [hone, List.filter_cons_of_pos (by simpa using hoffends)]
      exact .cons (reports_of_compileLine (h List.mem_cons_self) herror) hrest

/-- **The places of the errors are in order and do not touch.** -/
theorem pairwise_span_sourceErrors (source : String) (registry : Registry) :
    (sourceErrors source registry).Pairwise fun e e' => e.span.stop < e'.span.start := by
  refine List.pairwise_flatMap.mpr ⟨fun line _ => ?_, ?_⟩
  · rcases lineErrors_cases registry line with ⟨-, hnil⟩ | ⟨e, -, -, hone⟩
    · rw [hnil]
      exact .nil
    · rw [hone]
      exact List.pairwise_singleton _ _
  · -- errors of two lines are as far apart as the lines, since each stands within its own
    refine (pairwise_span_sourceLines source).imp_of_mem fun {l m} hl hm hlt e he e' he' => ?_
    have hfirst := span_of_mem_lineErrors hl he
    have hsecond := span_of_mem_lineErrors hm he'
    omega

theorem span_of_mem_sourceErrors (h : e ∈ sourceErrors source registry) :
    e.span.start < e.span.stop := by
  obtain ⟨line, hline, he⟩ := List.mem_flatMap.mp h
  exact (span_of_mem_lineErrors hline he).2.1

/-- **Compile errors are complete, in order, and in their places.** A source that has a tree
compiles iff all lines of the tree but comments are accepted. Otherwise it fails with one error for
each line that is not, in the order of the lines; the errors are not empty ranges, stand one behind
the other, and each cuts out of the source what it is about: the unknown command, or the line whose
argument is refused. The commands that an error lists are those of the registry, in order. -/
theorem compile_errors_complete (registry : Registry) (source : String) (script : Script)
    (h : parse source 0 = .ok script) :
    (Compiles source registry
      ↔ ∀ line ∈ Block.lines script.root, line.isComment = false → line.Accepted registry)
    ∧ (¬Compiles source registry → ∃ errors, compile source registry = .error (.compile errors)
      ∧ List.Forall₂ (fun line e => e.Reports registry source line)
        ((Block.lines script.root).filter (·.Offends registry)) errors
      ∧ errors.Pairwise (fun e e' => e.span.stop < e'.span.start)
      ∧ ∀ e ∈ errors, e.span.start < e.span.stop)
    ∧ registry.names.Pairwise (· < ·)
    ∧ ∀ name, name ∈ registry.names ↔ ∃ command, registry.get? name = some command := by
  obtain ⟨hnone, rfl⟩ := parse_eq_ok_iff.mp h
  rw [lines_rootBlock hnone]
  refine ⟨?_, fun hnot => ?_, registry.pairwise_keys, fun name => Dict.mem_keys_iff⟩
  · rw [compiles_iff, sourceErrors, List.flatMap_eq_nil_iff]
    simp only [lineErrors_eq_nil_iff]
    exact ⟨fun h => h.2, fun h => ⟨hnone, h⟩⟩
  · exact ⟨_, compile_eq_error hnone hnot, forall₂_reports (List.Subset.refl _),
      pairwise_span_sourceErrors source registry, fun e => span_of_mem_sourceErrors⟩

/-- A script with an unknown command in a sub-block, a comment and a command without its argument,
behind letters of more than one byte. -/
def faultySource : String := "echo é\n  schrei ü\n# load\n load"

theorem compile_errors_complete_faultySource :
    ∃ errors, compile faultySource .builtin = .error (.compile errors)
      ∧ List.Forall₂ (fun line e => e.Reports .builtin faultySource line)
        [⟨"schrei ü", 1, ⟨10, 19⟩⟩, ⟨"load", 0, ⟨28, 32⟩⟩] errors
      ∧ errors.Pairwise (fun e e' => e.span.stop < e'.span.start) := by
  have hnone : NoneShallower (sourceLines faultySource) := by decide
  have hnot : ¬Compiles faultySource .builtin := by decide
  obtain ⟨errors, herrors, hreports, horder, -⟩ :=
    (compile_errors_complete .builtin faultySource _ (parse_eq_ok_iff.mpr ⟨hnone, rfl⟩)).2.1 hnot
  have hoffends : (Block.lines (rootBlock faultySource)).filter (·.Offends .builtin)
      = [⟨"schrei ü", 1, ⟨10, 19⟩⟩, ⟨"load", 0, ⟨28, 32⟩⟩] := by
    rw [lines_rootBlock hnone]
    decide
  rw [hoffends] at hreports
  exact ⟨errors, herrors, hreports, horder⟩

end CheckScript
