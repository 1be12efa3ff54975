import CheckScript.Source.Tree

/-!
# Grouping lines by indentation

`group` reads the nodes of one block from a list of lines and returns them with the lines that it
leaves: it stops at the first line that is shallower than the block. A line at the level of the
block is an entry of it; a deeper line opens a sub-block at its own level, which reaches to the next
shallower line. So a line may come back to a level that no line before it had: it closes the blocks
that are deeper and, if it is still deeper than the block around them, opens a new one.

The recursion ends because every step leaves fewer lines: what `group` leaves is no longer than what
it was given, which is part of its result.

A script is the block that its first line opens. Its lines cannot stand shallower than that line;
the first one that does is the only structural error a script can have.

## Main statements

* `lines_group`: the lines of the nodes, then the lines that are left, are the lines given.
* `left_shallower`: the first line left is shallower than the block.
-/

namespace CheckScript

/-- Nodes read from the front of a list of lines, and the lines left. -/
structure Grouped (lines : List Line) where
  nodes : List Node
  left : List Line
  left_le : left.length ≤ lines.length

/-- Reads the nodes of a block at `level`. -/
def group (level : Nat) : (lines : List Line) → Grouped lines
  | [] => ⟨[], [], Nat.le_refl _⟩
  | line :: rest =>
    if line.indent < level then ⟨[], line :: rest, Nat.le_refl _⟩
    else if level < line.indent then
      match group line.indent rest with
      | ⟨inner, afterInner, hInner⟩ =>
        match group level afterInner with
        | ⟨outer, left, hOuter⟩ =>
          ⟨.block (.line line :: inner) :: outer, left, by simp only [List.length_cons]; omega⟩
    else
      match group level rest with
      | ⟨nodes, left, h⟩ => ⟨.line line :: nodes, left, by simp only [List.length_cons]; omega⟩
termination_by lines => lines.length
decreasing_by all_goals simp only [List.length_cons]; omega

/-- **No line is lost, repeated or moved.** -/
theorem lines_group (level : Nat) (lines : List Line) :
    Block.lines (group level lines).nodes ++ (group level lines).left = lines := by
  fun_induction group level lines with
  | case1 => simp
  | case2 => simp
  | case3 level line rest _ _ inner afterInner _ eInner outer left _ eOuter ihInner ihOuter =>
    simp only [eInner] at ihInner
    simp only [eOuter] at ihOuter
    simp only [Block.lines_cons, Node.lines_block, Node.lines_line, List.cons_append,
      List.nil_append, List.append_assoc]
    rw [ihOuter, ihInner]
  | case4 level line rest _ _ nodes left _ e ih =>
    simp only [e] at ih
    simp only [Block.lines_cons, Node.lines_line, List.cons_append, List.nil_append]
    rw [ih]

/-- **Grouping stops only at a shallower line.** -/
theorem left_shallower (level : Nat) (lines : List Line) :
    ∀ line ∈ (group level lines).left.head?, line.indent < level := by
  fun_induction group level lines with
  | case1 => simp
  | case2 level line rest h => simpa using h
  | case3 level line rest _ _ inner afterInner _ eInner outer left _ eOuter ihInner ihOuter =>
    simpa only [eOuter] using ihOuter
  | case4 level line rest _ _ nodes left _ e ih => simpa only [e] using ih

/-! ## Scripts -/

/-- A script: its lines as a tree, and the number of the file they came from. -/
structure Script where
  root : Block
  source : Nat

/-- The number of lines of a script, comments included. -/
def Script.lineCount (script : Script) : Nat := (Block.lines script.root).length

/-- A structural error: `stray` is the first line that is shallower than the `first` one. -/
structure ParseError where
  first : Line
  stray : Line
  deriving DecidableEq, Repr

/-- Groups all lines of a script. -/
def groupAll (lines : List Line) : Except ParseError Block :=
  match lines with
  | [] => .ok []
  | first :: _ =>
    match group first.indent lines with
    | ⟨nodes, [], _⟩ => .ok nodes
    | ⟨_, stray :: _, _⟩ => .error ⟨first, stray⟩

/-- Reads a script from its source. -/
def parse (source : String) (file : Nat) : Except ParseError Script :=
  (groupAll (sourceLines source)).map (⟨·, file⟩)

end CheckScript
