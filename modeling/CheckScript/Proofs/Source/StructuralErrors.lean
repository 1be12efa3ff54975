import CheckScript.Proofs.Script.Compiling

/-!
# The structural error of a script

A source has a tree unless one of its lines is shallower than the first one. Then there is one
error, which stands at the first such line and points to the first line of all
(`structural_errors_exact`). No line is lost: the lines are all that the source writes, and a tree
holds all of them.
-/

namespace CheckScript

variable {source : String} {file : Nat}

/-- **Reading a script fails on the first line that is shallower than the first one.** -/
theorem parse_eq_error_iff {e : ParseError} :
    parse source file = .error e ↔ FirstStray (sourceLines source) e.first e.stray := by
  rw [← groupAll_eq_error_iff, parse]
  cases groupAll (sourceLines source) with
  | error e' => simp [Except.map]
  | ok root => simp [Except.map]

theorem exists_parse_error_iff :
    (∃ e, parse source file = .error e)
      ↔ ∃ line ∈ sourceLines source, line.indent < rootLevel (sourceLines source) := by
  have hnone : (∃ e, parse source file = .error e) ↔ ¬NoneShallower (sourceLines source) := by
    cases h : parse source file with
    | error e =>
      have hnot : ¬NoneShallower (sourceLines source) := by
        intro hnone
        rw [parse_eq_ok_iff.mpr ⟨hnone, rfl⟩] at h
        cases h
      simp [hnot]
    | ok script => simp [(parse_eq_ok_iff.mp h).1]
  rw [hnone, NoneShallower]
  simp only [not_forall, Nat.not_le, exists_prop]

/-- The diagnostic for a line that is shallower than the first line of a file. -/
def strayDiagnostic (file : Nat) (first stray : Line) : Diagnostic where
  message := "line is indented less than the first line of the script"
  labels := [⟨.primary, file, stray.span, ""⟩,
    ⟨.secondary, file, first.span, "root indentation is set here"⟩]
  notes := ["the first line sits at indentation level " ++ toString first.indent
    ++ ", this line at level " ++ toString stray.indent]

/-- **Structural errors are exact.** The lines of a source are what its raw lines write, blank ones
left out. Reading the source fails iff one of them is shallower than the first. Then there is one
diagnostic: it stands at the first such line, points to the first line, and notes the levels of
both. Otherwise the tree holds all of the lines. -/
theorem structural_errors_exact (source : String) (file : Nat) :
    (Writes (sourceLines source) (rawLines source) ∧ ∀ line ∈ sourceLines source, line.Proper)
    ∧ ((∃ e, parse source file = .error e)
      ↔ ∃ line ∈ sourceLines source, line.indent < rootLevel (sourceLines source))
    ∧ (∀ e, parse source file = .error e → ∃ first stray,
      FirstStray (sourceLines source) first stray
        ∧ (ScriptError.parse e).diagnostics file = [strayDiagnostic file first stray])
    ∧ ∀ script, parse source file = .ok script →
      Block.lines script.root = sourceLines source := by
  refine ⟨⟨writes_sourceLines source, fun _ => proper_of_mem_sourceLines⟩, exists_parse_error_iff,
    fun e he => ⟨e.first, e.stray, parse_eq_error_iff.mp he, rfl⟩, fun script hscript => ?_⟩
  obtain ⟨hnone, rfl⟩ := parse_eq_ok_iff.mp hscript
  exact lines_rootBlock hnone

/-- The level of the third line is below that of the first, although it stands behind a blank. -/
def strayingSource : String := "  a\n    b\n  \n c\nd"

theorem structural_errors_exact_strayingSource :
    ∃ e, parse strayingSource 3 = .error e
      ∧ (ScriptError.parse e).diagnostics 3
        = [strayDiagnostic 3 ⟨"a", 1, ⟨2, 3⟩⟩ ⟨"c", 0, ⟨14, 15⟩⟩] := by
  have hparse : parse strayingSource 3 = .error ⟨⟨"a", 1, ⟨2, 3⟩⟩, ⟨"c", 0, ⟨14, 15⟩⟩⟩ :=
    parse_eq_error_iff.mpr
      ⟨[⟨"b", 2, ⟨8, 9⟩⟩], [⟨"d", 0, ⟨16, 17⟩⟩], by decide, by decide, by decide⟩
  obtain ⟨first, stray, hstray, hdiagnostics⟩ :=
    (structural_errors_exact strayingSource 3).2.2.1 _ hparse
  have hsame : parse strayingSource 3 = .error ⟨first, stray⟩ := parse_eq_error_iff.mpr hstray
  rw [hparse] at hsame
  cases hsame
  exact ⟨_, hparse, hdiagnostics⟩

end CheckScript
