import CheckScript.Proofs.Script.LayoutIndependence
import CheckScript.Proofs.Source.Comments

/-!
# Comments can be taken out

Compiling skips comments, so trees that differ by comments only have the same steps and errors
(`compileNodes_lessComments`). A comment at the level of one of its neighbours is no more than that
to the tree of a script, so it can be deleted (`comment_erasable`). Any other comment can matter: it
may open a block of its own or close one.
-/

namespace CheckScript

variable {registry : Registry}

/-! ## Compiling without comments -/

theorem lineSteps_of_comment {l : Line} (h : l.isComment = true) : lineSteps registry l = [] := by
  rw [lineSteps, if_pos h]

theorem lineErrors_of_comment {l : Line} (h : l.isComment = true) : lineErrors registry l = [] := by
  rw [lineErrors, if_pos h]

/-- **Comments leave nothing behind in what a tree is compiled to.** -/
theorem compileNodes_lessComments {xs ys : Block} (h : Block.LessComments xs ys) :
    compileNodes registry xs = compileNodes registry ys := by
  induction h with
  | nil => rfl
  | comment hl _ ih =>
    rw [compileNodes_line, lineSteps_of_comment hl, lineErrors_of_comment hl, ih]
    rfl
  | line l _ ih => rw [compileNodes_line, compileNodes_line, ih]
  | block _ _ ihInner ih => rw [compileNodes_block, compileNodes_block, ihInner, ih]

theorem flatMap_lineErrors_dropsComment {ls ms : List Line} (h : DropsComment ls ms) :
    ls.flatMap (lineErrors registry) = ms.flatMap (lineErrors registry) := by
  induction h with
  | ahead rest hcomment _ => rw [List.flatMap_cons, lineErrors_of_comment hcomment, List.nil_append]
  | behind rest hcomment _ =>
    rw [List.flatMap_cons, List.flatMap_cons, lineErrors_of_comment hcomment, List.nil_append,
      List.flatMap_cons]
  | later line _ ih => rw [List.flatMap_cons, List.flatMap_cons, ih]

/-- Sources have the same outcome if the lines of the second one are those of the first less one
such comment, at any places. -/
theorem sameOutcome_of_dropsComment {s t : String} {lines : List Line}
    (hdrops : DropsComment (sourceLines s) lines)
    (hlines : List.Forall₂ Line.SameUpToSpan lines (sourceLines t)) : SameOutcome registry s t := by
  have hlevels := levelsAlike_of_sameUpToSpan hlines
  have hwords : ∀ l m, Line.SameUpToSpan l m → SameWords l m :=
    fun _ _ hlm => sameWords_of_text_eq hlm.1
  refine sameOutcome_of_trees ?_ ?_ ?_
  · rw [hdrops.noneShallower_iff, noneShallower_congr hlines hlevels]
  · have hwithout := group_dropsComment hdrops (rootLevel (sourceLines s))
    have halike := (group_alike hlines hlevels).mono hwords
    rw [rootBlock, compileNodes_lessComments hwithout, hdrops.rootLevel_eq,
      steps_eq_of_alike halike]
    rfl
  · have halike := flatMap_lineErrors_alike registry (hlines.imp hwords) fun _ _ hlm => hlm
    rw [sourceErrors, flatMap_lineErrors_dropsComment hdrops, map_message_eq halike]
    rfl

/-! ## Comments of a source -/

theorem dropsComment_of_near {above below : List Line} {comment near : Line}
    (hcomment : comment.isComment = true) (hlevel : comment.indent = near.indent)
    (hnear : above.getLast? = some near ∨ below.head? = some near) :
    DropsComment (above ++ comment :: below) (above ++ below) := by
  rcases hnear with hlast | hhead
  · obtain ⟨front, rfl⟩ := List.getLast?_eq_some_iff.mp hlast
    rw [List.append_assoc, List.append_assoc]
    exact .append_left (.behind below hcomment hlevel) front
  · obtain ⟨rest, rfl⟩ := List.head?_eq_some_iff.mp hhead
    exact .append_left (.ahead rest hcomment hlevel) above

/-- The lines around a comment and the lines that stay without it. -/
theorem dropsComment_of_rawLines {s t : String} {before after : List (List Char)}
    {raw : List Char} {comment near : Line} (gap : List (List Char))
    (hs : rawLines s = before ++ raw :: after)
    (ht : rawLines t = before ++ (gap ++ after)) (hgap : ∀ blank ∈ gap, Text.AllBlank blank)
    (hraw : lineAt 0 raw = some comment) (hcomment : comment.isComment = true)
    (hnear : (linesFrom 0 before).getLast? = some near ∨ (linesFrom 0 after).head? = some near)
    (hlevel : comment.indent = near.indent) :
    ∃ lines, DropsComment (sourceLines s) lines
      ∧ List.Forall₂ Line.SameUpToSpan lines (sourceLines t) := by
  have hs' : sourceLines s = linesFrom 0 (before ++ raw :: after) := by rw [← hs]; rfl
  have ht' : sourceLines t = linesFrom 0 (before ++ (gap ++ after)) := by rw [← ht]; rfl
  rw [hs', ht', linesFrom_append, linesFrom_append, linesFrom, linesFrom_append,
    linesFrom_of_blank _ hgap, List.nil_append]
  generalize before.foldl _ 0 = offset
  generalize offset + _ + 1 = behind, gap.foldl _ offset = behind'
  -- the comment of `raw` has the same text and level wherever `raw` starts
  have hmoved := lineAt_shift offset 0 raw
  rw [Nat.zero_add, hraw, Option.map_some] at hmoved
  rw [hmoved, Option.toList_some, List.singleton_append]
  refine ⟨linesFrom 0 before ++ linesFrom behind after, ?_, List.rel_append
    (sameUpToSpan_linesFrom 0 0 before) (sameUpToSpan_linesFrom behind behind' after)⟩
  rcases hnear with hlast | hhead
  · exact dropsComment_of_near hcomment hlevel (.inl hlast)
  · obtain ⟨rest, hrest⟩ := List.head?_eq_some_iff.mp hhead
    have hafter := linesFrom_shift behind 0 after
    rw [Nat.zero_add, hrest, List.map_cons] at hafter
    rw [hafter]
    have hlevel' : (comment.shift offset).indent = (near.shift behind).indent := hlevel
    exact dropsComment_of_near hcomment hlevel' (.inr rfl)

/-- **A comment at the level of the line before it or of the line behind it can be deleted.**
Compiling with any registry has the same outcome without it, and so has running on any input,
whether its raw line goes as well or an empty one stays in its place. -/
theorem comment_erasable (registry : Registry) {s : String} {before after : List (List Char)}
    {raw : List Char} {comment near : Line} (hs : rawLines s = before ++ raw :: after)
    (hraw : lineAt 0 raw = some comment) (hcomment : comment.isComment = true)
    (hnear : (linesFrom 0 before).getLast? = some near ∨ (linesFrom 0 after).head? = some near)
    (hlevel : comment.indent = near.indent) :
    SameOutcome registry s (unlines (before ++ after))
      ∧ SameOutcome registry s (unlines (before ++ [] :: after)) := by
  have hnewline : ∀ r ∈ before ++ after, '\n' ∉ r := by
    have hall : ∀ r ∈ before ++ raw :: after, '\n' ∉ r := hs ▸ newline_not_mem_splitChar s.toList
    intro r hr
    refine hall r ?_
    rcases List.mem_append.mp hr with hr | hr
    · exact List.mem_append_left _ hr
    · exact List.mem_append_right _ (List.mem_cons_of_mem _ hr)
  have hne : before ++ after ≠ [] := by
    intro hnil
    obtain ⟨rfl, rfl⟩ := List.append_eq_nil_iff.mp hnil
    simp [linesFrom] at hnear
  constructor
  · have ht := rawLines_unlines hne hnewline
    obtain ⟨lines, hdrops, hlines⟩ := dropsComment_of_rawLines [] hs ht (by simp) hraw
      hcomment hnear hlevel
    exact sameOutcome_of_dropsComment hdrops hlines
  · have ht : rawLines (unlines (before ++ [] :: after)) = before ++ ([[]] ++ after) := by
      refine rawLines_unlines (by simp) fun r hr => ?_
      rcases List.mem_append.mp hr with hr | hr
      · exact hnewline r (List.mem_append_left _ hr)
      · rcases List.mem_cons.mp hr with rfl | hr
        · exact List.not_mem_nil
        · exact hnewline r (List.mem_append_right _ hr)
    obtain ⟨lines, hdrops, hlines⟩ := dropsComment_of_rawLines [[]] hs ht
      (by simp [Text.allBlank_nil]) hraw hcomment hnear hlevel
    exact sameOutcome_of_dropsComment hdrops hlines

/-- A comment in front of a sub-block, and one behind the line that a source has no tree for. -/
theorem comment_erasable_each_part :
    SameOutcome .builtin "split ,\n  # each part\n  trim" "split ,\n  trim"
    ∧ SameOutcome .builtin "  trim\njoin\n# last" "  trim\njoin" := by
  constructor
  · have hs : rawLines "split ,\n  # each part\n  trim"
        = ["split ,".toList] ++ "  # each part".toList :: ["  trim".toList] := by decide
    have ht : unlines (["split ,".toList] ++ ["  trim".toList]) = "split ,\n  trim" := by decide
    exact ht ▸ (comment_erasable .builtin hs rfl rfl (.inr rfl) rfl).1
  · have hs : rawLines "  trim\njoin\n# last"
        = ["  trim".toList, "join".toList] ++ "# last".toList :: [] := by decide
    have ht : unlines (["  trim".toList, "join".toList] ++ []) = "  trim\njoin" := by decide
    exact ht ▸ (comment_erasable .builtin hs rfl rfl (.inl rfl) rfl).1

end CheckScript
