import CheckScript.Proofs.Source.Blocks
import CheckScript.Proofs.Source.Grouping

/-!
# Lines that only comment

Comments take part in the grouping like any other line: one of them can open a block, close blocks,
or set the level of the whole script. A comment at the level of the line before it or of the line
behind it does nothing that its neighbour would not do, so without it the other lines are grouped as
before (`group_dropsComment`).

## Contents

* `DropsComment`: a list of lines without one such comment.
* `Block.LessComments`: a tree without some of its comments, wherever they stand in it.
-/

namespace CheckScript

/-- The second list is the first one without a comment that stands at the level of the line before
it or of the line behind it. -/
inductive DropsComment : List Line → List Line → Prop
  /-- The line behind the comment is at its level. -/
  | ahead {comment next : Line} (rest : List Line) :
    comment.isComment = true → comment.indent = next.indent →
    DropsComment (comment :: next :: rest) (next :: rest)
  /-- The line before the comment is at its level. -/
  | behind {previous comment : Line} (rest : List Line) :
    comment.isComment = true → comment.indent = previous.indent →
    DropsComment (previous :: comment :: rest) (previous :: rest)
  /-- The comment comes later than the first line. -/
  | later {ls ms : List Line} (line : Line) :
    DropsComment ls ms → DropsComment (line :: ls) (line :: ms)

/-- The second block is the first one without some of its comments. -/
inductive Block.LessComments : Block → Block → Prop
  | nil : Block.LessComments [] []
  | comment {l : Line} {xs ys : Block} :
    l.isComment = true → Block.LessComments xs ys → Block.LessComments (.line l :: xs) ys
  | line {xs ys : Block} (l : Line) :
    Block.LessComments xs ys → Block.LessComments (.line l :: xs) (.line l :: ys)
  | block {inner inner' xs ys : Block} :
    Block.LessComments inner inner' → Block.LessComments xs ys →
    Block.LessComments (.block inner :: xs) (.block inner' :: ys)

theorem Block.LessComments.refl (block : Block) : Block.LessComments block block := by
  induction block using Block.induction with
  | nil => exact .nil
  | line l rest ih => exact .line l ih
  | block inner rest ihInner ih => exact .block ihInner ih

namespace DropsComment

variable {ls ms : List Line}

theorem append_left (h : DropsComment ls ms) (before : List Line) :
    DropsComment (before ++ ls) (before ++ ms) := by
  induction before with
  | nil => exact h
  | cons line before ih => exact .later line ih

/-- The line that is left out has the level of one that stays, so bounds of the levels stay. -/
theorem forall_le_indent_iff (h : DropsComment ls ms) (level : Nat) :
    (∀ line ∈ ls, level ≤ line.indent) ↔ ∀ line ∈ ms, level ≤ line.indent := by
  induction h with
  | ahead rest _ hlevel => simp [hlevel]
  | behind rest _ hlevel => simp [hlevel]
  | later line _ ih => rw [List.forall_mem_cons, List.forall_mem_cons, ih]

theorem rootLevel_eq (h : DropsComment ls ms) : rootLevel ls = rootLevel ms := by
  cases h with
  | ahead _ _ hlevel => exact hlevel
  | behind _ _ _ => rfl
  | later line _ => rfl

theorem noneShallower_iff (h : DropsComment ls ms) : NoneShallower ls ↔ NoneShallower ms := by
  unfold NoneShallower
  rw [h.rootLevel_eq]
  exact h.forall_le_indent_iff _

end DropsComment

/-! ## Grouping -/

/-- Either the comment is among the lines that are taken, or it is among those that are left. -/
theorem left_dropsComment {ls ms : List Line} (h : DropsComment ls ms) (level : Nat) :
    (group level ls).left = (group level ms).left
      ∨ DropsComment (group level ls).left (group level ms).left := by
  simp only [left_group]
  induction h with
  | @ahead comment next rest hcomment hlevel =>
    have hsame : atLeast level comment = atLeast level next := by unfold atLeast; rw [hlevel]
    by_cases htaken : atLeast level next = true
    · rw [List.dropWhile_cons_of_pos (hsame.trans htaken)]
      exact .inl rfl
    · rw [List.dropWhile_cons_of_neg (hsame ▸ htaken), List.dropWhile_cons_of_neg htaken]
      exact .inr (.ahead rest hcomment hlevel)
  | @behind previous comment rest hcomment hlevel =>
    have hsame : atLeast level comment = atLeast level previous := by unfold atLeast; rw [hlevel]
    by_cases htaken : atLeast level previous = true
    · rw [List.dropWhile_cons_of_pos htaken, List.dropWhile_cons_of_pos (hsame.trans htaken),
        List.dropWhile_cons_of_pos htaken]
      exact .inl rfl
    · rw [List.dropWhile_cons_of_neg htaken, List.dropWhile_cons_of_neg htaken]
      exact .inr (.behind rest hcomment hlevel)
  | later line h ih =>
    by_cases htaken : atLeast level line = true
    · rw [List.dropWhile_cons_of_pos htaken, List.dropWhile_cons_of_pos htaken]
      exact ih
    · rw [List.dropWhile_cons_of_neg htaken, List.dropWhile_cons_of_neg htaken]
      exact .inr (.later line h)

/-- **A comment at the level of a neighbour only leaves itself out of the tree.** -/
theorem group_dropsComment {ls ms : List Line} (h : DropsComment ls ms) (level : Nat) :
    Block.LessComments (group level ls).nodes (group level ms).nodes := by
  induction level, ls using group_induction generalizing ms with
  | nil level => cases h
  | shallower level line rest hlt =>
    -- both lists start with a line that closes the block
    rw [nodes_group_of_lt hlt]
    cases h with
    | ahead rest _ hlevel => rw [nodes_group_of_lt (hlevel ▸ hlt)]; exact .nil
    | behind rest _ _ => rw [nodes_group_of_lt hlt]; exact .nil
    | later _ _ => rw [nodes_group_of_lt hlt]; exact .nil
  | deeper level line rest hgt ihInner ihOuter =>
    rw [nodes_group_of_gt hgt]
    cases h with
    | @ahead _ next rest hcomment hlevel =>
      -- the next line opens the block in place of the comment
      rw [hlevel] at hgt ⊢
      rw [nodes_group_of_eq, left_group_cons, nodes_group_of_gt hgt, left_group]
      exact .block (.comment hcomment (.refl _)) (.refl _)
    | @behind _ comment rest hcomment hlevel =>
      rw [nodes_group_of_gt hgt, ← hlevel, nodes_group_of_eq, left_group_cons, left_group]
      exact .block (.line _ (.comment hcomment (.refl _))) (.refl _)
    | @later _ rest' _ h =>
      rw [nodes_group_of_gt hgt]
      refine .block (.line _ (ihInner h)) ?_
      rcases left_dropsComment h line.indent with heq | hleft
      · rw [heq]
        exact .refl _
      · exact ihOuter hleft
  | same line rest ih =>
    rw [nodes_group_of_eq]
    cases h with
    | @ahead _ next rest hcomment hlevel =>
      rw [hlevel]
      exact .comment hcomment (.refl _)
    | @behind _ comment rest hcomment hlevel =>
      rw [nodes_group_of_eq, ← hlevel, nodes_group_of_eq]
      exact .line _ (.comment hcomment (.refl _))
    | later _ h =>
      rw [nodes_group_of_eq]
      exact .line _ (ih h)

end CheckScript
