import CheckScript.Proofs.Source.OpenLevels
import CheckScript.Proofs.Source.Partition

/-!
# What indentation means

Where a line stands in the tree of a script can be told from the levels of the lines alone. Two
lines stand in one block iff they have the same level and no line between them is shallower, and a
line is as deep as there are levels open at it. A dedent may come back to a level that no line had
before; that level is open from then on, and all deeper ones are closed.

`Block.LineAt` follows the way to a line through a canonical tree. Both facts are shown by induction
on it, for the nodes of any block; the level of the block then counts as open as well.

## Main statement

* `tree_follows_levels`: all of this for the tree of a source, and that the tree is as deep as its
  deepest line. `Block.FollowsLevels` lists the parts.
-/

namespace CheckScript

/-! ## A line of a canonical tree -/

namespace Block

/-- The line stands among the nodes of a block at `level`, with these lines before and behind it. -/
inductive LineAt : Nat → Block → List Line → Line → List Line → Prop
  /-- The line is the first node. -/
  | first {l : Line} {rest : Block} :
    Nested l.indent rest → LineAt l.indent (.line l :: rest) [] l (Block.lines rest)
  /-- The line comes later than the first node, which is a line as well. -/
  | later {a l : Line} {rest : Block} {before after : List Line} :
    Nested a.indent rest → LineAt a.indent rest before l after →
    LineAt a.indent (.line a :: rest) (a :: before) l after
  /-- The line stands in the first node, which is a block. -/
  | inner {level : Nat} {a l : Line} {inner rest : Block} {before after : List Line} :
    level < a.indent → Nested a.indent inner →
    (∀ next ∈ (Block.lines rest).head?, next.indent < a.indent) →
    LineAt a.indent (.line a :: inner) before l after →
    LineAt level (.block (.line a :: inner) :: rest) before l (after ++ Block.lines rest)
  /-- The line stands behind the first node, which is a block. -/
  | beyond {level : Nat} {a l : Line} {inner rest : Block} {before after : List Line} :
    level < a.indent → Nested a.indent inner →
    (∀ next ∈ (Block.lines rest).head?, next.indent < a.indent) →
    LineAt level rest before l after →
    LineAt level (.block (.line a :: inner) :: rest) (a :: Block.lines inner ++ before) l after

theorem LineAt.lines_eq {level : Nat} {nodes : Block} {before after : List Line} {l : Line}
    (h : LineAt level nodes before l after) : Block.lines nodes = before ++ l :: after := by
  induction h with
  | first _ => simp
  | later _ _ ih => simp [ih]
  | inner _ _ _ _ ih =>
    rw [lines_cons, Node.lines_block, ih, List.append_assoc, List.cons_append]
  | beyond _ _ _ _ ih => simp [ih]

theorem LineAt.cons_line {a : Line} {rest : Block} {before after : List Line} {l : Line}
    (hrest : Nested a.indent rest)
    (hat : ∀ before after, Block.lines rest = before ++ l :: after →
      LineAt a.indent rest before l after)
    (h : a :: Block.lines rest = before ++ l :: after) :
    LineAt a.indent (.line a :: rest) before l after := by
  rcases List.cons_eq_append_iff.mp h with ⟨rfl, heq⟩ | ⟨before, rfl, heq⟩
  · obtain ⟨rfl, rfl⟩ := List.cons.inj heq
    exact .first hrest
  · exact .later hrest (hat before after heq)

/-- Every line of a canonical tree stands somewhere in it. -/
theorem Nested.lineAt {level : Nat} {nodes : Block} (h : Nested level nodes) {l : Line} :
    ∀ {before after : List Line}, Block.lines nodes = before ++ l :: after →
      LineAt level nodes before l after := by
  induction h with
  | nil => simp
  | line ha hrest ih =>
    subst ha
    intro before after h
    exact .cons_line hrest (fun _ _ => ih) (by simpa using h)
  | @block level a inner rest hlevel hinner hnext hrest ihInner ih =>
    intro before after h
    have hhead := head_lines_lt_of_nested hrest hlevel hnext
    rw [lines_cons, Node.lines_block, lines_cons, Node.lines_line] at h
    rcases List.append_eq_append_iff.mp h with ⟨between, rfl, heq⟩ | ⟨between, hblock, heq⟩
    · exact .beyond hlevel hinner hhead (ih heq)
    · cases between with
      | nil =>
        obtain rfl : before = a :: Block.lines inner := by simpa using hblock.symm
        rw [← List.append_nil (a :: Block.lines inner)]
        exact .beyond hlevel hinner hhead (ih heq.symm)
      | cons l' between =>
        obtain ⟨rfl, rfl⟩ := List.cons.inj heq
        exact .inner hlevel hinner hhead (.cons_line hinner (fun _ _ => ihInner) hblock)

theorem Nested.indent_eq_of_mem {level : Nat} {nodes : Block} (h : Nested level nodes) {l : Line}
    (hl : Node.line l ∈ nodes) : l.indent = level := by
  induction h with
  | nil => cases hl
  | line ha _ ih =>
    rcases List.mem_cons.mp hl with heq | hl
    · rw [Node.line.inj heq, ha]
    · exact ih hl
  | block _ _ _ _ _ ih => exact ih (by simpa using hl)

/-- Of the lines of a block at all depths, its own entries are those at its level. -/
theorem Nested.line_mem_iff {level : Nat} {nodes : Block} (h : Nested level nodes) {l : Line}
    (hl : l ∈ Block.lines nodes) : Node.line l ∈ nodes ↔ l.indent = level := by
  refine ⟨h.indent_eq_of_mem, fun hlevel => ?_⟩
  induction h with
  | nil => cases hl
  | line _ _ ih =>
    rcases List.mem_cons.mp (by simpa using hl) with rfl | hl
    · exact List.mem_cons_self
    · exact List.mem_cons_of_mem _ (ih hl hlevel)
  | @block level a inner rest hdeeper hinner _ _ _ ih =>
    rw [lines_cons, Node.lines_block, List.mem_append] at hl
    rcases hl with hl | hl
    · have hle := le_of_mem_lines_of_nested (.line rfl hinner) l hl
      omega
    · exact List.mem_cons_of_mem _ (ih hl hlevel)

theorem takeWhile_append_of_head {p : Line → Bool} {lines more : List Line}
    (h : ∀ next ∈ more.head?, p next = false) :
    (lines ++ more).takeWhile p = lines.takeWhile p := by
  have hmore : more.takeWhile p = [] := by
    cases more with
    | nil => rfl
    | cons next more => rw [List.takeWhile_cons, h next rfl]; rfl
  rw [List.takeWhile_append, hmore, List.append_nil]
  split
  · next hlength => exact ((List.takeWhile_prefix p).eq_of_length hlength).symm
  · rfl

/-- **The entries of the block of a line behind it are the lines at its level, as far as no line is
shallower.** -/
theorem LineAt.siblings_iff {level : Nat} {nodes : Block} {before after : List Line} {l m : Line}
    (h : LineAt level nodes before l after) (hnodup : (Block.lines nodes).Nodup) (hm : m ∈ after) :
    Siblings nodes l m ↔ m.indent = l.indent ∧ m ∈ after.takeWhile (atLeast l.indent) := by
  induction h with
  | @first l rest hrest =>
    have hnot : l ∉ Block.lines rest := (List.nodup_cons.mp (by simpa using hnodup)).1
    have hall : (Block.lines rest).takeWhile (atLeast l.indent) = Block.lines rest :=
      List.takeWhile_eq_self_iff.mpr fun k hk =>
        decide_eq_true (le_of_mem_lines_of_nested hrest k hk)
    have hne : m ≠ l := by rintro rfl; exact hnot hm
    have hline : Node.line l ∉ rest := fun hl => hnot (mem_lines_of_mem hl)
    have hrest' : ¬Siblings rest l m := fun hs => hnot hs.mem_lines.1
    rw [siblings_cons_line, hall, ← hrest.line_mem_iff hm]
    simp only [hne, hline, hrest', hm, true_and, false_or, false_and, or_false, and_true]
  | @later a l rest before after hrest hat ih =>
    obtain ⟨hnot, hnodup⟩ := List.nodup_cons.mp (by simpa using hnodup)
    rw [hat.lines_eq] at hnot
    have hl : l ≠ a := by rintro rfl; simp at hnot
    have hma : m ≠ a := by rintro rfl; simp [hm] at hnot
    rw [siblings_cons_line, ← ih hnodup hm]
    simp only [hl, hma, false_and, and_false, false_or]
  | @inner level a l inner rest before after hlevel hinner hhead hat ih =>
    rw [lines_cons, Node.lines_block] at hnodup
    have hdisjoint := List.disjoint_of_nodup_append hnodup
    have hl : l ∈ Block.lines (.line a :: inner) := by rw [hat.lines_eq]; simp
    have hle := le_of_mem_lines_of_nested (.line rfl hinner) l hl
    have hstop : (after ++ Block.lines rest).takeWhile (atLeast l.indent)
        = after.takeWhile (atLeast l.indent) :=
      takeWhile_append_of_head fun next hnext =>
        decide_eq_false (by have := hhead next hnext; omega)
    have hrest : ¬Siblings rest l m := fun hs => hdisjoint hl hs.mem_lines.1
    rw [siblings_cons_block, or_iff_left hrest, hstop]
    rcases List.mem_append.mp hm with hm | hm
    · exact ih hnodup.of_append_left hm
    · -- the line behind the block is no entry of it, and some line closes the block before it
      have hinner : m ∉ Block.lines (.line a :: inner) := fun hmem => hdisjoint hmem hm
      have hafter : m ∉ after.takeWhile (atLeast l.indent) := by
        intro hmem
        refine hinner ?_
        rw [hat.lines_eq]
        simp [(List.takeWhile_prefix _).subset hmem]
      simp only [hafter, and_false, iff_false]
      exact fun hs => hinner hs.mem_lines.2
  | @beyond level a l inner rest before after hlevel hinner hhead hat ih =>
    rw [lines_cons, Node.lines_block] at hnodup
    have hdisjoint := List.disjoint_of_nodup_append hnodup
    have hl : l ∈ Block.lines rest := by rw [hat.lines_eq]; simp
    have hblock : ¬Siblings (.line a :: inner) l m := fun hs => hdisjoint hs.mem_lines.1 hl
    rw [siblings_cons_block, or_iff_right hblock]
    exact ih hnodup.of_append_right hm

theorem LineAt.level_le {level : Nat} {nodes : Block} {before after : List Line} {l : Line}
    (h : LineAt level nodes before l after) : ∀ k ∈ before ++ [l], level ≤ k.indent := by
  induction h with
  | first _ => simp
  | later _ _ ih => exact List.forall_mem_cons.mpr ⟨Nat.le_refl _, ih⟩
  | inner hlevel _ _ _ ih => exact fun k hk => hlevel.le.trans (ih k hk)
  | beyond hlevel hinner _ _ ih =>
    rw [List.append_assoc, List.forall_mem_append]
    refine ⟨fun k hk => hlevel.le.trans (le_of_mem_lines_of_nested (.line rfl hinner) k ?_), ih⟩
    simpa using hk

/-- The level of a block is open at all of its lines. -/
theorem LineAt.level_mem_openLevels {level : Nat} {a l : Line} {rest : Block}
    {before after : List Line} (h : LineAt level (.line a :: rest) before l after) :
    some level ∈ openLevels (before ++ [l]) := by
  cases h with
  | first _ => exact leastLevel_mem_openLevels a []
  | later _ hat =>
    rw [List.cons_append, openLevels_cons_of_le hat.level_le]
    exact Finset.mem_insert_self _ _

/-- **A line is as deep as there are levels open at it.** -/
theorem LineAt.holds_iff {level : Nat} {nodes : Block} {before after : List Line} {l : Line}
    (h : LineAt level nodes before l after) (hnodup : (Block.lines nodes).Nodup) {depth : Nat} :
    Holds nodes depth l
      ↔ depth = (insert (some level) (openLevels (before ++ [l]))).card := by
  induction h generalizing depth with
  | @first l rest hrest =>
    have hnot : l ∉ Block.lines rest := (List.nodup_cons.mp (by simpa using hnodup)).1
    have hrest' : ¬Holds rest depth l := fun h => hnot h.mem_lines
    have hopen : openLevels [l] = {some l.indent} := rfl
    rw [holds_cons_line, or_iff_left hrest', List.nil_append, hopen]
    simp
  | @later a l rest before after hrest hat ih =>
    obtain ⟨hnot, hnodup⟩ := List.nodup_cons.mp (by simpa using hnodup)
    have hlines := hat.lines_eq
    have hl : l ≠ a := by rintro rfl; simp [hlines] at hnot
    rw [holds_cons_line, ih hnodup, List.cons_append, openLevels_cons_of_le hat.level_le,
      Finset.insert_idem]
    simp only [hl, false_and, false_or]
  | @inner level a l inner rest before after hlevel hinner hhead hat ih =>
    rw [lines_cons, Node.lines_block] at hnodup
    have hl : l ∈ Block.lines (.line a :: inner) := by rw [hat.lines_eq]; simp
    have hrest : ¬Holds rest depth l :=
      fun h => List.disjoint_of_nodup_append hnodup hl h.mem_lines
    have hclosed : some level ∉ openLevels (before ++ [l]) :=
      fun hopen => absurd (le_of_mem_openLevels hat.level_le hopen) (Nat.not_le.mpr hlevel)
    rw [holds_cons_block, or_iff_left hrest, Finset.card_insert_of_notMem hclosed]
    simp only [ih hnodup.of_append_left, Finset.insert_eq_of_mem hat.level_mem_openLevels,
      exists_eq_right]
  | @beyond level a l inner rest before after hlevel hinner hhead hat ih =>
    rw [lines_cons, Node.lines_block] at hnodup
    have hl : l ∈ Block.lines rest := by rw [hat.lines_eq]; simp
    have hblock : ∀ d, ¬Holds (.line a :: inner) d l :=
      fun d h => List.disjoint_of_nodup_append hnodup h.mem_lines hl
    have hopen : openLevels (a :: Block.lines inner ++ before ++ [l])
        = openLevels (before ++ [l]) := by
      obtain ⟨next, more, hcons⟩ : ∃ next more, before ++ [l] = next :: more :=
        List.exists_cons_of_ne_nil (by simp)
      have hnext : next.indent < a.indent := by
        refine hhead next ?_
        rw [hat.lines_eq, List.append_cons, hcons]
        rfl
      rw [List.append_assoc, hcons]
      refine openLevels_append fun k hk => hnext.le.trans ?_
      exact le_of_mem_lines_of_nested (.line rfl hinner) k (by simpa using hk)
    rw [holds_cons_block, hopen, ← ih hnodup.of_append_right]
    simp only [hblock, and_false, exists_false, false_or]

/-! ## The depth of a tree -/

theorem exists_holds_depth_cons_line (a : Line) {rest : Block}
    (h : rest = [] ∨ ∃ l, Holds rest (Block.depth rest) l) :
    ∃ l, Holds (.line a :: rest) (Block.depth (.line a :: rest)) l := by
  have hdepth : Block.depth (.line a :: rest) = Block.depth rest := by
    have := one_le_depth rest
    rw [Block.depth, Node.depth]
    omega
  rw [hdepth]
  rcases h with rfl | ⟨l, hl⟩
  · exact ⟨a, .here List.mem_cons_self⟩
  · exact ⟨l, holds_cons_line.mpr (.inr hl)⟩

/-- **Some line of a block is as deep as the block.** -/
theorem Nested.exists_holds_depth {level : Nat} {nodes : Block} (h : Nested level nodes) :
    nodes = [] ∨ ∃ l, Holds nodes (Block.depth nodes) l := by
  induction h with
  | nil => exact .inl rfl
  | line _ _ ih => exact .inr (exists_holds_depth_cons_line _ ih)
  | @block level a inner rest _ _ _ _ ihInner ih =>
    obtain ⟨l, hl⟩ := exists_holds_depth_cons_line a ihInner
    have hdepth : Block.depth (.block (.line a :: inner) :: rest)
        = max (1 + Block.depth (.line a :: inner)) (Block.depth rest) := by
      rw [Block.depth, Node.depth]
    right
    rcases Nat.lt_or_ge (1 + Block.depth (.line a :: inner)) (Block.depth rest) with hlt | hle
    · rw [hdepth, Nat.max_eq_right hlt.le]
      rcases ih with rfl | ⟨k, hk⟩
      · rw [Block.depth] at hlt
        omega
      · exact ⟨k, holds_cons_block.mpr (.inr hk)⟩
    · rw [hdepth, Nat.max_eq_left hle, Nat.add_comm]
      exact ⟨l, .inside List.mem_cons_self hl⟩

theorem mem_takeWhile_append_cons_iff {p : Line → Bool} {between more : List Line} {m : Line}
    (hm : m ∉ between) :
    m ∈ (between ++ m :: more).takeWhile p ↔ (∀ k ∈ between, p k = true) ∧ p m = true := by
  constructor
  · intro h
    refine ⟨?_, List.mem_takeWhile_imp h⟩
    rw [List.takeWhile_append] at h
    split at h
    · next hlength =>
      exact List.takeWhile_eq_self_iff.mp ((List.takeWhile_prefix p).eq_of_length hlength)
    · exact absurd ((List.takeWhile_prefix p).subset h) hm
  · rintro ⟨hbetween, hp⟩
    rw [List.takeWhile_append_of_pos hbetween, List.takeWhile_cons_of_pos hp]
    simp

/-- What the levels of the lines say about the tree that holds them. -/
structure FollowsLevels (root : Block) (lines : List Line) : Prop where
  /-- The lines differ in their places, so that each stands for its own. -/
  distinct : lines.Nodup
  /-- Two lines are entries of one block iff they stand at one level and no line between them is
  shallower. -/
  siblings : ∀ (i j : Nat) (hij : i < j) (hj : j < lines.length),
    Siblings root lines[i] lines[j]
      ↔ lines[i].indent = lines[j].indent
        ∧ ∀ (k : Nat) (hk : k < j), i < k → lines[i].indent ≤ lines[k].indent
  /-- A line is as deep as there are different least levels of the lines from one of those before
  it, or from itself, up to it. -/
  holds : ∀ (i : Nat) (hi : i < lines.length) (depth : Nat),
    Holds root depth lines[i] ↔ depth = (openLevels (lines.take (i + 1))).card
  /-- No line is deeper than the tree. -/
  le_depth : ∀ i < lines.length, (openLevels (lines.take (i + 1))).card ≤ Block.depth root
  /-- The deepest line is as deep as the tree. -/
  depth_eq : lines ≠ [] →
    ∃ i < lines.length, Block.depth root = (openLevels (lines.take (i + 1))).card
  depth_nil : lines = [] → Block.depth root = 1

/-- Between two places are the lines behind the first and before the second. -/
theorem mem_between_iff {lines : List Line} {i j : Nat} (hj : j < lines.length) {l : Line} :
    l ∈ (lines.take j).drop (i + 1)
      ↔ ∃ (k : Nat) (hk : k < j), i < k ∧ lines[k] = l := by
  simp only [List.mem_drop_iff_getElem, List.getElem_take, List.length_take]
  constructor
  · rintro ⟨n, hn, rfl⟩
    exact ⟨i + 1 + n, by omega, by omega, rfl⟩
  · rintro ⟨k, hk, hik, rfl⟩
    exact ⟨k - (i + 1), by omega, by congr 1; omega⟩

theorem Canonical.lineAt {root : Block} (h : root.Canonical) {before after : List Line} {l : Line}
    (hlines : Block.lines root = before ++ l :: after) :
    LineAt (Block.level root) root before l after
      ∧ some (Block.level root) ∈ openLevels (before ++ [l]) := by
  rcases h with rfl | ⟨first, rest, rfl, hrest⟩
  · simp at hlines
  · have hat : LineAt (Block.level (.line first :: rest)) (.line first :: rest) before l after := by
      have hlevel : Block.level (.line first :: rest) = first.indent := by
        simp [Block.level, rootLevel]
      rw [hlevel]
      exact (Nested.line rfl hrest).lineAt hlines
    exact ⟨hat, hat.level_mem_openLevels⟩

variable {root : Block} {lines : List Line} {i j : Nat}

theorem Canonical.holds_iff (h : root.Canonical) (hlines : Block.lines root = lines)
    (hnodup : lines.Nodup) (hi : i < lines.length) {depth : Nat} :
    Holds root depth lines[i] ↔ depth = (openLevels (lines.take (i + 1))).card := by
  subst hlines
  have hsplit : Block.lines root
      = (Block.lines root).take i ++ (Block.lines root)[i] :: (Block.lines root).drop (i + 1) := by
    rw [← List.drop_eq_getElem_cons hi, List.take_append_drop]
  obtain ⟨hat, hopen⟩ := h.lineAt hsplit
  rw [hat.holds_iff hnodup, Finset.insert_eq_of_mem hopen, List.take_append_getElem hi]

theorem Canonical.siblings_iff (h : root.Canonical) (hlines : Block.lines root = lines)
    (hnodup : lines.Nodup) (hij : i < j) (hj : j < lines.length) :
    Siblings root lines[i] lines[j]
      ↔ lines[i].indent = lines[j].indent
        ∧ ∀ (k : Nat) (hk : k < j), i < k → lines[i].indent ≤ lines[k].indent := by
  have hi : i < lines.length := hij.trans hj
  have hsplit : lines = lines.take i ++ lines[i] :: lines.drop (i + 1) := by
    rw [← List.drop_eq_getElem_cons hi, List.take_append_drop]
  have hbehind : lines.drop (i + 1)
      = (lines.take j).drop (i + 1) ++ lines[j] :: lines.drop (j + 1) := by
    rw [← List.drop_eq_getElem_cons hj, ← List.drop_append_of_le_length, List.take_append_drop]
    rw [List.length_take]
    omega
  have hnot : lines[j] ∉ (lines.take j).drop (i + 1) := by
    intro hmem
    obtain ⟨k, hk, -, heq⟩ := (mem_between_iff hj).mp hmem
    exact absurd (hnodup.getElem_inj_iff.mp heq) hk.ne
  have hmem : lines[j] ∈ lines.drop (i + 1) := by
    rw [hbehind]
    exact List.mem_append_right _ List.mem_cons_self
  rw [(h.lineAt (hlines.trans hsplit)).1.siblings_iff (hlines ▸ hnodup) hmem, hbehind,
    mem_takeWhile_append_cons_iff hnot]
  constructor
  · rintro ⟨hlevel, hbetween, -⟩
    refine ⟨hlevel.symm, fun k hk hik => ?_⟩
    exact of_decide_eq_true (hbetween _ ((mem_between_iff hj).mpr ⟨k, hk, hik, rfl⟩))
  · rintro ⟨hlevel, hbetween⟩
    refine ⟨hlevel.symm, fun l hl => ?_, decide_eq_true hlevel.le⟩
    obtain ⟨k, hk, hik, rfl⟩ := (mem_between_iff hj).mp hl
    exact decide_eq_true (hbetween k hk hik)

theorem Canonical.exists_holds_depth (h : root.Canonical) (hne : root ≠ []) :
    ∃ l, Holds root (Block.depth root) l := by
  rcases h with rfl | ⟨first, rest, rfl, hrest⟩
  · exact absurd rfl hne
  · exact exists_holds_depth_cons_line first hrest.exists_holds_depth

/-- **Indentation says all about a canonical tree of different lines.** -/
theorem followsLevels_of_canonical (h : root.Canonical) (hlines : Block.lines root = lines)
    (hnodup : lines.Nodup) : root.FollowsLevels lines := by
  have hholds (i : Nat) (hi : i < lines.length) (depth : Nat) :
      Holds root depth lines[i] ↔ depth = (openLevels (lines.take (i + 1))).card :=
    h.holds_iff hlines hnodup hi
  constructor
  case distinct => exact hnodup
  case siblings => exact fun i j hij hj => h.siblings_iff hlines hnodup hij hj
  case holds => exact hholds
  case le_depth => exact fun i hi => ((hholds i hi _).mpr rfl).le_depth
  case depth_eq =>
    intro hne
    obtain ⟨l, hl⟩ := h.exists_holds_depth (by rintro rfl; exact hne hlines.symm)
    obtain ⟨i, hi, rfl⟩ := List.mem_iff_getElem.mp (hlines ▸ hl.mem_lines)
    exact ⟨i, hi, (hholds i hi _).mp hl⟩
  case depth_nil =>
    rintro rfl
    rcases h with rfl | ⟨first, rest, rfl, -⟩
    · rw [Block.depth]
    · simp at hlines

end Block

theorem nodup_sourceLines (source : String) : (sourceLines source).Nodup := by
  have horder := linesInOrder_sourceLines source
  refine horder.pairwise.imp_of_mem fun {l m} hl _ hlt heq => ?_
  have hspan := horder.start_lt_stop l hl
  rw [← heq] at hlt
  omega

/-- **The tree of a script follows the levels of its lines.** Two lines are entries of one block iff
they have the same level and no line between them is shallower. The depth of a line is the number of
different least levels of the lines from some line up to it. The depth of the tree is that of its
deepest line, and 1 without lines. -/
theorem tree_follows_levels {source : String} {file : Nat} {script : Script}
    (h : parse source file = .ok script) : script.root.FollowsLevels (sourceLines source) := by
  obtain ⟨hnone, rfl⟩ := parse_eq_ok_iff.mp h
  exact Block.followsLevels_of_canonical (canonical_rootBlock source) (lines_rootBlock hnone)
    (nodup_sourceLines source)

/-- A script with two dedents to levels that no line before them had. -/
def steppingDownSource : String := "a\n      b\n    c\n\t\td\n  # e\nf"

theorem tree_follows_levels_steppingDownSource :
    ∃ script, parse steppingDownSource 0 = .ok script
      ∧ ¬Block.Siblings script.root ⟨"b", 3, ⟨8, 9⟩⟩ ⟨"c", 2, ⟨14, 15⟩⟩
      ∧ Block.Siblings script.root ⟨"c", 2, ⟨14, 15⟩⟩ ⟨"d", 2, ⟨18, 19⟩⟩
      ∧ Block.Holds script.root 2 ⟨"# e", 1, ⟨22, 25⟩⟩
      ∧ Block.depth script.root = 2 := by
  have hnone : NoneShallower (sourceLines steppingDownSource) := by decide
  have hparse : parse steppingDownSource 0 = .ok ⟨rootBlock steppingDownSource, 0⟩ :=
    parse_eq_ok_iff.mpr ⟨hnone, rfl⟩
  have h := tree_follows_levels hparse
  have hlines : sourceLines steppingDownSource
      = [⟨"a", 0, ⟨0, 1⟩⟩, ⟨"b", 3, ⟨8, 9⟩⟩, ⟨"c", 2, ⟨14, 15⟩⟩, ⟨"d", 2, ⟨18, 19⟩⟩,
        ⟨"# e", 1, ⟨22, 25⟩⟩, ⟨"f", 0, ⟨26, 27⟩⟩] := by decide
  rw [hlines] at h
  refine ⟨_, hparse, fun hs => ?_, ?_, ?_, ?_⟩
  · exact absurd ((h.siblings 1 2 (by decide) (by decide)).mp hs).1 (by decide)
  · exact (h.siblings 2 3 (by decide) (by decide)).mpr (by decide)
  · exact (h.holds 4 (by decide) 2).mpr (by decide)
  · obtain ⟨i, hi, hdepth⟩ := h.depth_eq (by simp)
    refine Nat.le_antisymm (hdepth.trans_le ?_) (h.le_depth 4 (by decide))
    clear hdepth
    revert i
    decide

end CheckScript
