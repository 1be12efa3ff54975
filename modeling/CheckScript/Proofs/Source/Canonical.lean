import CheckScript.Proofs.Script.Compiling

/-!
# Canonical trees

The trees that grouping makes, and the only ones: a canonical tree is read back from its own lines
(`nodes_group_lines`), and what grouping makes is canonical (`nested_group`). Two sub-blocks may
stand next to each other, as a dedent need not come back to a level that was there before; then the
second one is shallower, since otherwise it would still belong to the first.
-/

namespace CheckScript

/-- The level of a block: that of its first line. -/
def Block.level (block : Block) : Nat := rootLevel (Block.lines block)

/-- The nodes may stand behind the first line of a block at `level`. -/
inductive Block.Nested : Nat → Block → Prop
  | nil {level : Nat} : Block.Nested level []
  /-- All lines of the block stand at its level. -/
  | line {level : Nat} {l : Line} {rest : Block} :
    l.indent = level → Block.Nested level rest → Block.Nested level (.line l :: rest)
  /-- A sub-block starts with a line, is deeper than the block around it and canonical itself; a
  sub-block right behind it is shallower than it. -/
  | block {level : Nat} {first : Line} {inner rest : Block} :
    level < first.indent → Block.Nested first.indent inner →
    (∀ next more, rest = .block next :: more → Block.level next < first.indent) →
    Block.Nested level rest → Block.Nested level (.block (.line first :: inner) :: rest)

/-- The tree is empty, or starts with a line and goes on as a block at the level of that line. -/
def Block.Canonical (root : Block) : Prop :=
  root = [] ∨ ∃ first rest, root = .line first :: rest ∧ Block.Nested first.indent rest

/-! ## What grouping makes -/

theorem level_eq_of_nodes_group {level : Nat} {lines : List Line} {next more : Block}
    (h : (group level lines).nodes = .block next :: more) :
    ∃ line ∈ lines.head?, Block.level next = line.indent := by
  cases lines with
  | nil => simp at h
  | cons line rest =>
    refine ⟨line, rfl, ?_⟩
    rcases Nat.lt_trichotomy line.indent level with hlt | heq | hgt
    · rw [nodes_group_of_lt hlt] at h
      cases h
    · subst heq
      rw [nodes_group_of_eq] at h
      cases h
    · rw [nodes_group_of_gt hgt] at h
      cases h
      simp [Block.level, rootLevel]

/-- **The nodes of a group may stand in a block at its level.** -/
theorem nested_group (level : Nat) (lines : List Line) :
    Block.Nested level (group level lines).nodes := by
  induction level, lines using group_induction with
  | nil level => simpa using .nil
  | shallower level line rest h =>
    rw [nodes_group_of_lt h]
    exact .nil
  | deeper level line rest h ihInner ihOuter =>
    rw [nodes_group_of_gt h]
    refine .block h ihInner (fun next more hnext => ?_) ihOuter
    obtain ⟨l, hl, heq⟩ := level_eq_of_nodes_group hnext
    rw [heq]
    exact left_shallower line.indent rest l hl
  | same line rest ih =>
    rw [nodes_group_of_eq]
    exact .line rfl ih

/-- A tree that was read is canonical. -/
theorem canonical_rootBlock (source : String) : (rootBlock source).Canonical := by
  rw [rootBlock]
  cases sourceLines source with
  | nil => exact .inl (by simp)
  | cons first rest =>
    refine .inr ⟨first, (group first.indent rest).nodes, ?_, nested_group _ _⟩
    exact nodes_group_of_eq first rest

/-! ## Blocks of a canonical tree -/

theorem canonical_of_mem_nested {level : Nat} {nodes inner : Block} (h : Block.Nested level nodes)
    (hmem : Node.block inner ∈ nodes) : inner ≠ [] ∧ inner.Canonical := by
  induction h with
  | nil => cases hmem
  | line _ _ ih =>
    rcases List.mem_cons.mp hmem with heq | hmem
    · cases heq
    · exact ih hmem
  | @block level first nodes rest _ hnodes _ _ _ ih =>
    rcases List.mem_cons.mp hmem with heq | hmem
    · obtain rfl := Node.block.inj heq
      exact ⟨List.cons_ne_nil _ _, .inr ⟨first, nodes, rfl, hnodes⟩⟩
    · exact ih hmem

/-- A sub-block of a canonical tree is not empty, and canonical. -/
theorem Block.Canonical.of_mem {root inner : Block} (h : root.Canonical)
    (hmem : Node.block inner ∈ root) : inner ≠ [] ∧ inner.Canonical := by
  rcases h with rfl | ⟨first, rest, rfl, hrest⟩
  · cases hmem
  · rcases List.mem_cons.mp hmem with heq | hmem
    · cases heq
    · exact canonical_of_mem_nested hrest hmem

/-- Every block of a canonical tree is canonical. -/
theorem Block.Canonical.of_within {block root : Block} (h : root.Canonical)
    (hwithin : Block.Within block root) : block.Canonical := by
  induction hwithin with
  | self => exact h
  | inside hmem _ ih => exact ((ih h).of_mem hmem).2

/-! ## Canonical trees are read back -/

theorem le_of_mem_lines_of_nested {level : Nat} {nodes : Block} (h : Block.Nested level nodes) :
    ∀ line ∈ Block.lines nodes, level ≤ line.indent := by
  induction h with
  | nil => simp
  | line hl _ ih =>
    simp only [Block.lines_cons, Node.lines_line, List.cons_append, List.nil_append,
      List.forall_mem_cons]
    exact ⟨hl.ge, ih⟩
  | block hlevel _ _ _ ihInner ih =>
    simp only [Block.lines_cons, Node.lines_block, Node.lines_line, List.cons_append,
      List.nil_append, List.forall_mem_cons, List.forall_mem_append]
    exact ⟨hlevel.le, fun l hl => hlevel.le.trans (ihInner l hl), ih⟩

/-- What stands behind a sub-block starts shallower than it. -/
theorem head_lines_lt_of_nested {level inner : Nat} {nodes : Block} (h : Block.Nested level nodes)
    (hlevel : level < inner)
    (hnext : ∀ next more, nodes = .block next :: more → Block.level next < inner) :
    ∀ line ∈ (Block.lines nodes).head?, line.indent < inner := by
  cases h with
  | nil => simp
  | line hl _ => simpa using hl.trans_lt hlevel
  | block _ _ _ _ => simpa [Block.level, rootLevel] using hnext _ _ rfl

/-- **A canonical tree is read back from its lines.** -/
theorem nodes_group_lines {level : Nat} {nodes : Block} (h : Block.Nested level nodes) :
    (group level (Block.lines nodes)).nodes = nodes := by
  induction h with
  | nil => rw [Block.lines_nil, group_nil]
  | @line level l rest hl _ ih =>
    subst hl
    rw [Block.lines_cons, Node.lines_line, List.cons_append, List.nil_append, nodes_group_of_eq, ih]
  | @block level first inner rest hlevel hinner hnext hrest ihInner ih =>
    have hhead := head_lines_lt_of_nested hrest hlevel hnext
    -- the inner block takes all of its own lines, so what follows is read by the outer one
    have hleft : (group first.indent (Block.lines inner)).left = [] :=
      left_group_eq_nil_iff.mpr (le_of_mem_lines_of_nested hinner)
    rw [Block.lines_cons, Node.lines_block, Block.lines_cons, Node.lines_line, List.cons_append,
      List.nil_append, List.cons_append, nodes_group_of_gt hlevel, nodes_group_append_of_lt hhead,
      left_group_append hhead, hleft, List.nil_append, ihInner, ih]

theorem group_lines_of_canonical {root : Block} (h : root.Canonical) :
    NoneShallower (Block.lines root)
      ∧ (group (rootLevel (Block.lines root)) (Block.lines root)).nodes = root := by
  rcases h with rfl | ⟨first, rest, rfl, hrest⟩
  · rw [Block.lines_nil, group_nil]
    exact ⟨by simp [NoneShallower], rfl⟩
  · have hlines : Block.lines (.line first :: rest) = first :: Block.lines rest := by simp
    rw [hlines]
    refine ⟨List.forall_mem_cons.mpr ⟨Nat.le_refl _, le_of_mem_lines_of_nested hrest⟩, ?_⟩
    show (group first.indent (first :: Block.lines rest)).nodes = _
    rw [nodes_group_of_eq, nodes_group_lines hrest]

/-- A canonical tree is the tree of a source with its lines. -/
theorem rootBlock_of_canonical {source : String} {tree : Block} (h : tree.Canonical)
    (hlines : sourceLines source = Block.lines tree) : rootBlock source = tree := by
  rw [rootBlock, hlines]
  exact (group_lines_of_canonical h).2

/-- Lines that are the same up to their places are grouped alike. -/
theorem alike_rootBlock {source : String} {lines : List Line}
    (h : List.Forall₂ Line.SameUpToSpan (sourceLines source) lines) (hnone : NoneShallower lines) :
    NoneShallower (sourceLines source)
      ∧ Block.Alike Line.SameUpToSpan (rootBlock source) (group (rootLevel lines) lines).nodes := by
  have hlevels := levelsAlike_of_sameUpToSpan h
  exact ⟨(noneShallower_congr h hlevels).mpr hnone, group_alike h hlevels⟩

/-- **Reading a script is the inverse of writing one, on exactly the canonical trees.** The tree of
a source is canonical and holds the lines that the source writes, each once and in order, with
proper texts. A canonical tree of proper lines is read back from whatever writes its lines, up to
their places. -/
theorem parse_inverse_of_writes :
    (∀ source file script, parse source file = .ok script →
      script.root.Canonical ∧ Block.lines script.root = sourceLines source
        ∧ Writes (Block.lines script.root) (rawLines source)
        ∧ ∀ line ∈ Block.lines script.root, line.Proper)
    ∧ ∀ (tree : Block) (raws : List (List Char)) (file : Nat),
      tree.Canonical → (∀ line ∈ Block.lines tree, line.Proper) → Writes (Block.lines tree) raws →
      ∃ script, parse (unlines raws) file = .ok script
        ∧ Block.Alike Line.SameUpToSpan script.root tree := by
  constructor
  · intro source file script h
    obtain ⟨hnone, rfl⟩ := parse_eq_ok_iff.mp h
    rw [lines_rootBlock hnone]
    exact ⟨canonical_rootBlock source, rfl, writes_sourceLines source,
      fun _ => proper_of_mem_sourceLines⟩
  · intro tree raws file hcanonical hproper hwrites
    obtain ⟨hnone, htree⟩ := group_lines_of_canonical hcanonical
    obtain ⟨hparses, halike⟩ := alike_rootBlock (sourceLines_unlines hwrites hproper) hnone
    rw [htree] at halike
    exact ⟨⟨rootBlock (unlines raws), file⟩, parse_eq_ok_iff.mpr ⟨hparses, rfl⟩, halike⟩

/-- The tree of a script with a dedent to a level that was not there before. -/
def dedentTree : Block :=
  [.line ⟨"a", 0, ⟨0, 1⟩⟩, .block [.line ⟨"b", 3, ⟨8, 9⟩⟩], .block [.line ⟨"c", 2, ⟨14, 15⟩⟩],
    .line ⟨"d", 0, ⟨18, 19⟩⟩]

theorem parse_inverse_of_writes_dedentTree :
    ∃ script, parse "a\n      b\n \n\t\tc  \nd" 0 = .ok script
      ∧ script.root.Canonical ∧ Block.Alike Line.SameUpToSpan script.root dedentTree := by
  have hcanonical : dedentTree.Canonical := by
    refine .inr ⟨_, _, rfl, .block (by decide) .nil ?_ (.block (by decide) .nil ?_ ?_)⟩
    · rintro next more ⟨⟩
      decide
    · rintro next more ⟨⟩
    · exact .line rfl .nil
  have hproper : ∀ line ∈ Block.lines dedentTree, line.Proper := by
    intro line hline
    have hmem : line ∈ [⟨"a", 0, ⟨0, 1⟩⟩, ⟨"b", 3, ⟨8, 9⟩⟩, ⟨"c", 2, ⟨14, 15⟩⟩,
        (⟨"d", 0, ⟨18, 19⟩⟩ : Line)] := hline
    simp only [List.mem_cons, List.not_mem_nil, or_false] at hmem
    rcases hmem with rfl | rfl | rfl | rfl <;> exact ⟨by decide, by decide, by decide⟩
  have hwrites : Writes (Block.lines dedentTree)
      [[] ++ "a".toList ++ [], List.replicate 6 ' ' ++ "b".toList ++ [], [' '],
        ['\t', '\t'] ++ "c".toList ++ [' ', ' '], [] ++ "d".toList ++ []] :=
    .line (by decide) rfl (by decide) (.line (by decide) rfl (by decide) (.blank (by decide)
      (.line (by decide) rfl (by decide) (.line (by decide) rfl (by decide) .nil))))
  obtain ⟨script, hparse, halike⟩ := parse_inverse_of_writes.2 _ _ 0 hcanonical hproper hwrites
  exact ⟨script, hparse, (parse_inverse_of_writes.1 _ 0 script hparse).1, halike⟩

end CheckScript
