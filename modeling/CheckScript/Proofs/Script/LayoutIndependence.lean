import CheckScript.Command.Builtin
import CheckScript.Proofs.Script.Compiling
import CheckScript.Proofs.Source.Relayout

/-!
# The layout of a script does not matter

Compiling and running see the words of the lines and which of two lines is the deeper one, and
nothing else of a source. So sources that are alike in these have the same outcome
(`sameOutcome_of_layoutAlike`), and so have sources that differ by line endings, blank lines,
blanks at the ends of lines or between words, tabs or the width of an indentation step.
-/

namespace CheckScript

variable {registry : Registry} {s t : String}

/-- The sources have the same outcome, whatever the input. -/
inductive SameOutcome (registry : Registry) (s t : String) : Prop
  /-- Both compile and give the same on every input. -/
  | run {step step' : Step} :
    compile s registry = .ok step → compile t registry = .ok step' →
    (∀ input, runScript s registry input = runScript t registry input) →
    SameOutcome registry s t
  /-- Neither has a tree. -/
  | parse {e e' : ParseError} :
    compile s registry = .error (.parse e) → compile t registry = .error (.parse e') →
    e.message = e'.message → SameOutcome registry s t
  /-- Neither compiles, for the same reasons in the same order. -/
  | compile {es es' : List CompileError} :
    compile s registry = .error (.compile es) → compile t registry = .error (.compile es') →
    es.map CompileError.message = es'.map CompileError.message → SameOutcome registry s t

/-! ## The same words -/

/-- Whether a line is a comment can be told from its words. -/
theorem isComment_eq_of_words {l m : Line} (hl : l.Proper) (hm : m.Proper)
    (h : l.words = m.words) : l.isComment = m.isComment := by
  -- a line starts with its first word, as its text is trimmed
  have hhead : ∀ {line : Line}, line.Proper →
      line.text.toList.head? = line.words.head?.bind List.head? := by
    intro line hline
    obtain ⟨c, cs, htext⟩ := List.exists_cons_of_ne_nil hline.ne_nil
    have htrimmed := hline.trimmed
    rw [htext] at htrimmed
    obtain ⟨w, ws, hws⟩ := Text.words_cons_of_not_blank (Text.isBlank_head_of_trimmed htrimmed) cs
    rw [Line.words, htext, hws]
    rfl
  rw [Line.isComment, Line.isComment, hhead hl, hhead hm, h]

theorem sameWords_sourceLines
    (h : (sourceLines s).map Line.words = (sourceLines t).map Line.words) :
    List.Forall₂ SameWords (sourceLines s) (sourceLines t) := by
  obtain ⟨hlength, hwords⟩ := List.forall₂_iff_zip.mp (map_words_eq_iff.mp h)
  refine List.forall₂_iff_zip.mpr ⟨hlength, fun hmem => ⟨hwords hmem, ?_⟩⟩
  obtain ⟨hl, hm⟩ := List.of_mem_zip hmem
  exact isComment_eq_of_words (proper_of_mem_sourceLines hl) (proper_of_mem_sourceLines hm)
    (hwords hmem)

/-! ## The same outcome -/

theorem map_message_eq {es es' : List CompileError}
    (h : List.Forall₂ (CompileError.Alike SameWords) es es') :
    es.map CompileError.message = es'.map CompileError.message := by
  induction h with
  | nil => rfl
  | cons he _ ih => rw [List.map_cons, List.map_cons, he.message, ih]

/-- Sources have the same outcome if both or neither have a tree, their trees have the same steps,
and their lines have errors that say the same. -/
theorem sameOutcome_of_trees
    (hnone : NoneShallower (sourceLines s) ↔ NoneShallower (sourceLines t))
    (hsteps : (compileNodes registry (rootBlock s)).steps
      = (compileNodes registry (rootBlock t)).steps)
    (herrors : (sourceErrors s registry).map CompileError.message
      = (sourceErrors t registry).map CompileError.message) :
    SameOutcome registry s t := by
  have hnil : sourceErrors s registry = [] ↔ sourceErrors t registry = [] := by
    rw [← List.map_eq_nil_iff, herrors, List.map_eq_nil_iff]
  by_cases hs : NoneShallower (sourceLines s)
  · have ht := hnone.mp hs
    by_cases hcompiles : sourceErrors s registry = []
    · have hcs := compile_eq_ok_iff.mpr ⟨hs, hcompiles, rfl⟩
      have hct := compile_eq_ok_iff.mpr ⟨ht, hnil.mp hcompiles, rfl⟩
      refine .run hcs hct fun input => ?_
      rw [runScript, runScript, hcs, hct]
      show Except.mapError _ ((Step.pipe (compileNodes registry (rootBlock s)).steps).result input)
        = _
      rw [hsteps]
      rfl
    · have hcs : ¬Compiles s registry := fun hc => hcompiles (compiles_iff.mp hc).2
      have hct : ¬Compiles t registry := fun hc => hcompiles (hnil.mpr (compiles_iff.mp hc).2)
      exact .compile (compile_eq_error hs hcs) (compile_eq_error ht hct) herrors
  · obtain ⟨e, he⟩ := compile_of_not_noneShallower registry hs
    obtain ⟨e', he'⟩ := compile_of_not_noneShallower registry (hnone.not.mp hs)
    exact .parse he he' rfl

theorem sameOutcome_of_alike (h : LayoutAlike s t) (registry : Registry) :
    SameOutcome registry s t := by
  have hpairs := sameWords_sourceLines h.words
  have hsteps : (compileNodes registry (rootBlock s)).steps
      = (compileNodes registry (rootBlock t)).steps :=
    steps_eq_of_alike (group_alike hpairs h.levels)
  have herrors := flatMap_lineErrors_alike registry hpairs fun _ _ hlm => hlm
  exact sameOutcome_of_trees (noneShallower_congr hpairs h.levels) hsteps (map_message_eq herrors)

/-- **Layout does not matter.** Sources whose lines have the same words and whose levels are ordered
alike have the same outcome with every registry; in particular sources that differ by any number of
changes of line endings, blank lines, blanks at the ends of lines or between words, tabs for two
blanks, and the width of a step of indentation. -/
theorem layout_independent (registry : Registry) (s t : String) :
    (LayoutAlike s t → SameOutcome registry s t)
    ∧ (Relation.EqvGen Relayout s t → SameOutcome registry s t) :=
  ⟨fun h => sameOutcome_of_alike h registry,
    fun h => sameOutcome_of_alike (layoutAlike_of_eqvGen h) registry⟩

/-- A script with a blank line and more blanks, and one with tabs and longer line endings. -/
theorem layout_independent_split_trim :
    SameOutcome .builtin "split ,\n  trim" "split   ,\n\n      trim "
    ∧ SameOutcome .builtin "split ,\n  trim" "split ,\r\n\ttrim" := by
  constructor
  · exact (layout_independent .builtin _ _).1 ⟨by decide, by decide⟩
  · have htab : rawLines "split ,\r\n\ttrim" = ["split ,\r".toList] ++ ['\t' :: "trim".toList] := by
      decide
    have hspaces : rawLines "split ,\r\n  trim"
        = ["split ,\r".toList] ++ [' ' :: ' ' :: "trim".toList] := by
      decide
    have hreturns : Relayout "split ,\n  trim" "split ,\r\n  trim" := .endings (by decide)
    have hchange : Relayout "split ,\r\n\ttrim" "split ,\r\n  trim" :=
      .line htab hspaces (.tab "trim".toList Text.allBlank_nil)
    exact (layout_independent .builtin _ _).2
      (.trans _ _ _ (.rel _ _ hreturns) (.symm _ _ (.rel _ _ hchange)))

end CheckScript
