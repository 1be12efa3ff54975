import CheckScript.Source.Line

/-!
# The indentation tree

Lines that stand deeper than the line before them form a block under it. `Node` is one entry of a
block, a line or a block of deeper lines, and a block is the list of its nodes.

## Contents

* `Block.lines`: the lines of a block at all depths, in source order.
* `Block.span`: from the start of its first node to the end of its last.
* `Block.depth`: the levels of nesting, a block without sub-blocks having depth 1.
-/

namespace CheckScript

/-- One entry of a block: a line, or a block of lines that stand deeper. -/
inductive Node where
  | line (l : Line)
  | block (nodes : List Node)

/-- A block of a script, node by node. -/
abbrev Block := List Node

mutual

/-- The lines of a node in source order. -/
def Node.lines : Node → List Line
  | .line l => [l]
  | .block nodes => Block.lines nodes

/-- The lines of a block at all depths, in source order. -/
def Block.lines : List Node → List Line
  | [] => []
  | node :: nodes => node.lines ++ Block.lines nodes

end

mutual

/-- The place of a node in the source. -/
def Node.span : Node → Span
  | .line l => l.span
  | .block nodes => Block.span nodes

/-- From the start of the first node to the end of the last; the empty span at 0 without nodes. -/
def Block.span : Block → Span
  | [] => ⟨0, 0⟩
  | [node] => node.span
  | node :: next :: rest => ⟨node.span.start, (Block.span (next :: rest)).stop⟩

end

mutual

/-- The depth a node adds to the block it stands in. -/
def Node.depth : Node → Nat
  | .line _ => 0
  | .block nodes => Block.depth nodes

/-- The levels of nesting of a block. -/
def Block.depth : List Node → Nat
  | [] => 1
  | node :: nodes => max (1 + node.depth) (Block.depth nodes)

end

theorem Block.one_le_depth : ∀ block : Block, 1 ≤ Block.depth block
  | [] => by simp [Block.depth]
  | node :: nodes => by rw [Block.depth]; omega

@[simp] theorem Block.lines_nil : Block.lines [] = [] := by simp [Block.lines]

@[simp] theorem Block.lines_cons (node : Node) (nodes : List Node) :
    Block.lines (node :: nodes) = node.lines ++ Block.lines nodes := by simp [Block.lines]

@[simp] theorem Node.lines_line (l : Line) : (Node.line l).lines = [l] := by
  simp [Node.lines]

@[simp] theorem Node.lines_block (nodes : List Node) :
    (Node.block nodes).lines = Block.lines nodes := by simp [Node.lines]

@[simp] theorem Node.span_line (l : Line) : (Node.line l).span = l.span := by simp [Node.span]

@[simp] theorem Node.span_block (nodes : List Node) :
    (Node.block nodes).span = Block.span nodes := by simp [Node.span]

theorem Block.lines_append (nodes more : List Node) :
    Block.lines (nodes ++ more) = Block.lines nodes ++ Block.lines more := by
  induction nodes with
  | nil => simp
  | cons node nodes ih => simp [ih]

end CheckScript
