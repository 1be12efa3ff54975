import CheckScript.Source.Tree
import Mathlib.Tactic.Tauto

/-!
# Blocks of a tree

`Block.induction` is the induction over a block by its first node, for proofs about trees.

A block within another one, at any depth, holds a stretch of its lines (`Within.lines_infix`), so
what is true of the order of all lines is true of the lines of each block.

Which lines share a block (`Siblings`) and how deep the block of a line is (`Holds`) can be read off
the nodes one by one (`siblings_cons_line`, `siblings_cons_block`, `holds_cons_line`,
`holds_cons_block`).
-/

namespace CheckScript

namespace Block

@[elab_as_elim]
theorem induction {motive : Block → Prop} (nil : motive [])
    (line : ∀ l rest, motive rest → motive (.line l :: rest))
    (block : ∀ inner rest, motive inner → motive rest → motive (.block inner :: rest)) :
    ∀ nodes, motive nodes
  | [] => nil
  | .line l :: rest => line l rest (induction nil line block rest)
  | .block inner :: rest =>
    block inner rest (induction nil line block inner) (induction nil line block rest)

theorem lines_eq_flatMap (nodes : Block) : Block.lines nodes = nodes.flatMap Node.lines := by
  induction nodes with
  | nil => rw [lines_nil, List.flatMap_nil]
  | cons node rest ih => rw [lines_cons, List.flatMap_cons, ih]

/-- The lines of a node stand together among those of its block. -/
theorem lines_infix_of_mem {nodes : Block} {node : Node} (h : node ∈ nodes) :
    node.lines <:+: Block.lines nodes := by
  obtain ⟨before, after, rfl⟩ := List.append_of_mem h
  refine ⟨Block.lines before, Block.lines after, ?_⟩
  rw [Block.lines_append, lines_cons, List.append_assoc]

theorem mem_lines_of_mem {nodes : Block} {line : Line} (h : Node.line line ∈ nodes) :
    line ∈ Block.lines nodes :=
  (lines_infix_of_mem h).subset (by simp)

/-- The first block is the second one or stands in it, at any depth. -/
inductive Within : Block → Block → Prop
  | self {block : Block} : Within block block
  | inside {inner outer root : Block} :
    Node.block inner ∈ outer → Within outer root → Within inner root

theorem Within.lines_infix {block root : Block} (h : Within block root) :
    Block.lines block <:+: Block.lines root := by
  induction h with
  | self => exact List.infix_refl _
  | inside hmem _ ih =>
    have hinner := lines_infix_of_mem hmem
    rw [Node.lines_block] at hinner
    exact hinner.trans ih

theorem Within.lines_subset {block root : Block} (h : Within block root) :
    Block.lines block ⊆ Block.lines root :=
  h.lines_infix.subset

/-! ## Lines and the blocks they stand in -/

/-- One block of the tree has both lines among its entries. -/
def Siblings (root : Block) (l m : Line) : Prop :=
  ∃ block, Within block root ∧ Node.line l ∈ block ∧ Node.line m ∈ block

/-- The line is an entry of a block of the tree that is `depth` blocks deep; the tree itself is one
deep. -/
inductive Holds : Block → Nat → Line → Prop
  | here {root : Block} {l : Line} : Node.line l ∈ root → Holds root 1 l
  | inside {root inner : Block} {depth : Nat} {l : Line} :
    Node.block inner ∈ root → Holds inner depth l → Holds root (depth + 1) l

theorem within_iff {block root : Block} :
    Within block root ↔ block = root ∨ ∃ inner, Node.block inner ∈ root ∧ Within block inner := by
  constructor
  · intro h
    induction h with
    | self => exact .inl rfl
    | @inside block outer root hmem hwithin ih =>
      rcases ih with rfl | ⟨inner, hinner, houter⟩
      · exact .inr ⟨block, hmem, .self⟩
      · exact .inr ⟨inner, hinner, .inside hmem houter⟩
  · rintro (rfl | ⟨inner, hinner, hwithin⟩)
    · exact .self
    · induction hwithin with
      | self => exact .inside hinner .self
      | inside hmem _ ih => exact .inside hmem (ih hinner)

theorem siblings_iff {root : Block} {l m : Line} :
    Siblings root l m ↔ (Node.line l ∈ root ∧ Node.line m ∈ root)
      ∨ ∃ inner, Node.block inner ∈ root ∧ Siblings inner l m := by
  constructor
  · rintro ⟨block, hwithin, hl, hm⟩
    rcases within_iff.mp hwithin with rfl | ⟨inner, hinner, hwithin⟩
    · exact .inl ⟨hl, hm⟩
    · exact .inr ⟨inner, hinner, block, hwithin, hl, hm⟩
  · rintro (⟨hl, hm⟩ | ⟨inner, hinner, block, hwithin, hl, hm⟩)
    · exact ⟨root, .self, hl, hm⟩
    · exact ⟨block, within_iff.mpr (.inr ⟨inner, hinner, hwithin⟩), hl, hm⟩

theorem Siblings.mem_lines {root : Block} {l m : Line} (h : Siblings root l m) :
    l ∈ Block.lines root ∧ m ∈ Block.lines root := by
  obtain ⟨block, hwithin, hl, hm⟩ := h
  exact ⟨hwithin.lines_subset (mem_lines_of_mem hl), hwithin.lines_subset (mem_lines_of_mem hm)⟩

theorem siblings_cons_line {a l m : Line} {rest : Block} :
    Siblings (.line a :: rest) l m
      ↔ (l = a ∧ (m = a ∨ Node.line m ∈ rest)) ∨ (Node.line l ∈ rest ∧ m = a)
        ∨ Siblings rest l m := by
  rw [siblings_iff, @siblings_iff rest]
  simp only [List.mem_cons, Node.line.injEq, reduceCtorEq, false_or]
  tauto

theorem siblings_cons_block {inner rest : Block} {l m : Line} :
    Siblings (.block inner :: rest) l m ↔ Siblings inner l m ∨ Siblings rest l m := by
  rw [siblings_iff, @siblings_iff rest]
  simp only [List.mem_cons, Node.block.injEq, reduceCtorEq, false_or, or_and_right, exists_or,
    exists_eq_left]
  tauto

theorem Holds.mem_lines {root : Block} {depth : Nat} {l : Line} (h : Holds root depth l) :
    l ∈ Block.lines root := by
  induction h with
  | here hmem => exact mem_lines_of_mem hmem
  | inside hmem _ ih =>
    exact (lines_infix_of_mem hmem).subset (by simpa using ih)

theorem holds_cons_line {a l : Line} {rest : Block} {depth : Nat} :
    Holds (.line a :: rest) depth l ↔ (l = a ∧ depth = 1) ∨ Holds rest depth l := by
  constructor
  · rintro (hmem | ⟨hmem, h⟩)
    · rcases List.mem_cons.mp hmem with heq | hmem
      · exact .inl ⟨Node.line.inj heq, rfl⟩
      · exact .inr (.here hmem)
    · exact .inr (.inside (by simpa using hmem) h)
  · rintro (⟨rfl, rfl⟩ | hmem | ⟨hmem, h⟩)
    · exact .here List.mem_cons_self
    · exact .here (List.mem_cons_of_mem _ hmem)
    · exact .inside (List.mem_cons_of_mem _ hmem) h

theorem holds_cons_block {inner rest : Block} {l : Line} {depth : Nat} :
    Holds (.block inner :: rest) depth l
      ↔ (∃ d, depth = d + 1 ∧ Holds inner d l) ∨ Holds rest depth l := by
  constructor
  · rintro (hmem | ⟨hmem, h⟩)
    · exact .inr (.here (by simpa using hmem))
    · rcases List.mem_cons.mp hmem with heq | hmem
      · obtain rfl := Node.block.inj heq
        exact .inl ⟨_, rfl, h⟩
      · exact .inr (.inside hmem h)
  · rintro (⟨d, rfl, h⟩ | hmem | ⟨hmem, h⟩)
    · exact .inside List.mem_cons_self h
    · exact .here (List.mem_cons_of_mem _ hmem)
    · exact .inside (List.mem_cons_of_mem _ hmem) h

theorem depth_lt_of_mem {nodes inner : Block} (h : Node.block inner ∈ nodes) :
    Block.depth inner < Block.depth nodes := by
  induction nodes with
  | nil => cases h
  | cons node rest ih =>
    rw [Block.depth]
    rcases List.mem_cons.mp h with rfl | h
    · rw [Node.depth]
      omega
    · have := ih h
      omega

theorem Holds.le_depth {nodes : Block} {depth : Nat} {l : Line} (h : Holds nodes depth l) :
    depth ≤ Block.depth nodes := by
  induction h with
  | here _ => exact one_le_depth _
  | inside hmem _ ih => exact Nat.lt_of_le_of_lt ih (depth_lt_of_mem hmem)

end Block

end CheckScript
