import CheckScript.Proofs.Source.Grouping
import Mathlib.Logic.Function.Iterate
import Mathlib.Order.Bounds.Basic

/-!
# Grouping with a cursor

Lines can be grouped in one walk over them, with a cursor and a stack of open blocks. The line at
the cursor becomes an entry of the innermost block, or opens a block in it, or ends it; when a block
ends, the block around it goes on behind the lines that were consumed. Nothing that a step sees says
that the walk ends, as a line that opens a block leaves the cursor where it is.

It ends because such a line stands at the level of the block that it opens, so that the next step
consumes it (`Walk.reaches_behind`). A line costs at most three steps: it may open a block, it is
consumed, and the block may end behind it (`Walk.readsGroup`).

## Main statement

* `walk_takes_longest_run`: the walk ends, behind the longest run of lines that are not shallower
  than its level, with the nodes that `group` makes of them.
-/

namespace CheckScript

/-- A block whose lines are being read. -/
structure OpenBlock where
  /-- The place of its first line. -/
  start : Nat
  /-- Its level, or nothing if its first line is to set it. -/
  level : Option Nat
  /-- What was read of it. -/
  nodes : Block
  /-- The place of the line that is to be read. -/
  cursor : Nat

namespace OpenBlock

/-- The number of lines that the block has consumed. -/
def consumed (block : OpenBlock) : Nat := block.cursor - block.start

/-- The block with the line at its cursor as an entry. -/
def take (block : OpenBlock) (line : Line) : OpenBlock :=
  ⟨block.start, some line.indent, block.nodes ++ [.line line], block.cursor + 1⟩

/-- The block that the line at the cursor opens. -/
def opened (block : OpenBlock) (line : Line) : OpenBlock :=
  ⟨block.cursor, some line.indent, [], block.cursor⟩

/-- The block behind a sub-block of it. -/
def behind (block : OpenBlock) (children : Block) (consumed : Nat) : OpenBlock :=
  { block with nodes := block.nodes ++ [.block children], cursor := block.cursor + consumed }

end OpenBlock

/-- The state of a walk: inside a block with those around it, from the innermost one outwards, or at
its end. -/
inductive Walk where
  | inside (block : OpenBlock) (around : List OpenBlock)
  | ended (nodes : Block) (consumed : Nat)

namespace Walk

/-- The block ends: the one around it goes on behind it, or the walk is at its end. -/
def close (block : OpenBlock) : List OpenBlock → Walk
  | [] => .ended block.nodes block.consumed
  | outer :: around => .inside (outer.behind block.nodes block.consumed) around

/-- One step of a walk over the lines. -/
def step (lines : List Line) : Walk → Walk
  | .ended nodes consumed => .ended nodes consumed
  | .inside block around =>
    match lines[block.cursor]?, block.level with
    | none, _ => close block around
    | some line, none => .inside (block.take line) around
    | some line, some level =>
      if level < line.indent then .inside (block.opened line) (block :: around)
      else if line.indent < level then close block around
      else .inside (block.take line) around

/-- A walk goes from one state to the other in `n` steps. -/
def Reaches (lines : List Line) (n : Nat) (w w' : Walk) : Prop := (step lines)^[n] w = w'

variable {lines rest : List Line} {line : Line} {block : OpenBlock} {around : List OpenBlock}

section

variable {n m : Nat} {w w' w'' : Walk}

theorem Reaches.refl (w : Walk) : Reaches lines 0 w w := rfl

theorem Reaches.head (h : step lines w = w') (h' : Reaches lines n w' w'') :
    Reaches lines (n + 1) w w'' := by
  rw [Reaches, Function.iterate_succ_apply, h, h']

theorem Reaches.tail (h : Reaches lines n w w') (h' : step lines w' = w'') :
    Reaches lines (n + 1) w w'' := by
  rw [Reaches, Function.iterate_succ_apply', h, h']

theorem Reaches.trans (h : Reaches lines n w w') (h' : Reaches lines m w' w'') :
    Reaches lines (n + m) w w'' := by
  rw [Reaches, Nat.add_comm, Function.iterate_add_apply, h, h']

end

/-! ## One step -/

theorem getElem?_of_drop {place : Nat} (h : lines.drop place = line :: rest) :
    lines[place]? = some line ∧ lines.drop (place + 1) = rest := by
  constructor
  · rw [← List.head?_drop, h, List.head?_cons]
  · rw [← List.tail_drop, h, List.tail_cons]

/-- A block ends at the end of the lines and at a line that is shallower. -/
theorem step_of_shallower
    (h : ∀ line ∈ (lines.drop block.cursor).head?, ∃ level ∈ block.level, line.indent < level) :
    step lines (.inside block around) = close block around := by
  rw [step]
  cases hline : lines[block.cursor]? with
  | none => rfl
  | some line =>
    obtain ⟨level, hlevel, hlt⟩ := h line (by rw [List.head?_drop, hline]; rfl)
    rw [Option.mem_def.mp hlevel]
    simp only [if_neg (Nat.lt_asymm hlt), if_pos hlt]

/-- The first line of a block and those at its level are entries of it. -/
theorem step_of_level (hline : lines[block.cursor]? = some line)
    (h : ∀ level ∈ block.level, level = line.indent) :
    step lines (.inside block around) = .inside (block.take line) around := by
  rw [step, hline]
  cases hlevel : block.level with
  | none => rfl
  | some level =>
    obtain rfl := h level hlevel
    simp only [if_neg (Nat.lt_irrefl _)]

/-- A deeper line opens a block, and is not consumed. -/
theorem step_of_deeper {level : Nat} (hline : lines[block.cursor]? = some line)
    (hlevel : block.level = some level) (h : level < line.indent) :
    step lines (.inside block around) = .inside (block.opened line) (block :: around) := by
  rw [step, hline, hlevel]
  simp only [if_pos h]

/-! ## The lines that a block consumes -/

/-- The number of lines that `group` takes. -/
def taken (level : Nat) (lines : List Line) : Nat :=
  (Block.lines (group level lines).nodes).length

theorem drop_taken (level : Nat) (lines : List Line) :
    lines.drop (taken level lines) = (group level lines).left :=
  (congrArg (List.drop _) (lines_group level lines).symm).trans List.drop_left

theorem taken_of_gt {level : Nat} (h : level < line.indent) (rest : List Line) :
    taken level (line :: rest)
      = taken line.indent rest + 1 + taken level (group line.indent rest).left := by
  rw [taken, nodes_group_of_gt h, Block.lines_cons, Node.lines_block, Block.lines_cons,
    Node.lines_line, List.length_append, List.length_append, List.length_singleton,
    Nat.add_comm 1]
  rfl

theorem taken_of_eq (line : Line) (rest : List Line) :
    taken line.indent (line :: rest) = taken line.indent rest + 1 := by
  rw [taken, nodes_group_of_eq, Block.lines_cons, Node.lines_line, List.length_append,
    List.length_singleton, Nat.add_comm]
  rfl

/-- The block reads the lines `rest` from its cursor on as `group` does, with at most three steps
for each line that it consumes. -/
def ReadsGroup (lines rest : List Line) (level : Nat) : Prop :=
  ∀ place, lines.drop place = rest → ∀ start nodes around, ∃ n ≤ 3 * taken level rest,
    Reaches lines n (.inside ⟨start, some level, nodes, place⟩ around)
      (.inside ⟨start, some level, nodes ++ (group level rest).nodes, place + taken level rest⟩
        around)

/-- **A deeper line opens a block, which consumes that line and all that are not shallower.** -/
theorem reaches_behind (block : OpenBlock) (around : List OpenBlock) {level : Nat}
    (hplace : lines.drop block.cursor = line :: rest) (hlevel : block.level = some level)
    (hlt : level < line.indent) (hinner : ReadsGroup lines rest line.indent) :
    step lines (.inside block around) = .inside (block.opened line) (block :: around)
      ∧ ∃ n ≤ 3 * taken line.indent rest + 2,
        Reaches lines n (.inside (block.opened line) (block :: around))
          (.inside (block.behind (.line line :: (group line.indent rest).nodes)
            (taken line.indent rest + 1)) around) := by
  obtain ⟨hline, hrest⟩ := getElem?_of_drop hplace
  obtain ⟨n, hn, hreads⟩ := hinner _ hrest block.cursor [.line line] (block :: around)
  have htaken : step lines (.inside (block.opened line) (block :: around))
      = .inside ⟨block.cursor, some line.indent, [.line line], block.cursor + 1⟩
        (block :: around) :=
    step_of_level hline (by simp [OpenBlock.opened])
  -- the block ends, as what it leaves is empty or starts with a shallower line
  have hleft : lines.drop (block.cursor + 1 + taken line.indent rest)
      = (group line.indent rest).left := by
    rw [← List.drop_drop, hrest, drop_taken]
  have hclosed : step lines (.inside ⟨block.cursor, some line.indent,
        [.line line] ++ (group line.indent rest).nodes,
        block.cursor + 1 + taken line.indent rest⟩ (block :: around))
      = .inside (block.behind (.line line :: (group line.indent rest).nodes)
          (taken line.indent rest + 1)) around := by
    have hconsumed : block.cursor + 1 + taken line.indent rest - block.cursor
        = taken line.indent rest + 1 := by omega
    rw [step_of_shallower fun l hl => ⟨_, rfl, left_shallower _ rest l (hleft ▸ hl)⟩, close,
      OpenBlock.consumed, hconsumed]
    rfl
  exact ⟨step_of_deeper hline hlevel hlt, n + 1 + 1, by omega, .head htaken (hreads.tail hclosed)⟩

/-- **A block reads what `group` makes of its lines.** -/
theorem readsGroup (lines : List Line) (level : Nat) (rest : List Line) :
    ReadsGroup lines rest level := by
  induction level, rest using group_induction with
  | nil level =>
    intro place hrest start nodes around
    rw [taken, group_nil, List.append_nil]
    exact ⟨0, Nat.zero_le _, .refl _⟩
  | shallower level line rest hlt =>
    intro place hrest start nodes around
    rw [taken, nodes_group_of_lt hlt, List.append_nil]
    exact ⟨0, Nat.zero_le _, .refl _⟩
  | deeper level line rest hlt ihInner ihOuter =>
    intro place hplace start nodes around
    obtain ⟨hline, hrest⟩ := getElem?_of_drop hplace
    obtain ⟨hopened, n, hn, hbehind⟩ :=
      reaches_behind ⟨start, some level, nodes, place⟩ around hplace rfl hlt ihInner
    have hleft : lines.drop (place + (taken line.indent rest + 1))
        = (group line.indent rest).left := by
      rw [← drop_taken, ← hrest, List.drop_drop]
      congr 1
      omega
    obtain ⟨m, hm, hreads⟩ := ihOuter _ hleft start
      (nodes ++ [.block (.line line :: (group line.indent rest).nodes)]) around
    refine ⟨n + m + 1, ?_, ?_⟩
    · rw [taken_of_gt hlt]
      omega
    · rw [taken_of_gt hlt, nodes_group_of_gt hlt, ← Nat.add_assoc, List.append_cons]
      exact .head hopened (hbehind.trans hreads)
  | same line rest ih =>
    intro place hplace start nodes around
    obtain ⟨hline, hrest⟩ := getElem?_of_drop hplace
    obtain ⟨n, hn, hreads⟩ := ih _ hrest start (nodes ++ [.line line]) around
    have htaken : step lines (.inside ⟨start, some line.indent, nodes, place⟩ around)
        = .inside ⟨start, some line.indent, nodes ++ [.line line], place + 1⟩ around :=
      step_of_level hline (by simp)
    rw [taken_of_eq, nodes_group_of_eq, List.append_cons, Nat.add_comm (taken _ _),
      ← Nat.add_assoc]
    exact ⟨n + 1, by omega, .head htaken hreads⟩

/-! ## The whole walk -/

/-- The level of a block with these lines: the one that is given, or else that of the first line. -/
def levelOf (level : Option Nat) (lines : List Line) : Nat := level.getD (rootLevel lines)

/-- A walk in one block ends behind the lines that `group` takes. -/
theorem step_behind_group (lines : List Line) (start level : Nat) (nodes : Block) :
    step lines (.inside ⟨start, some level, nodes, start + taken level (lines.drop start)⟩ [])
      = .ended nodes (taken level (lines.drop start)) := by
  have hleft : lines.drop (start + taken level (lines.drop start))
      = (group level (lines.drop start)).left := by
    rw [← List.drop_drop, drop_taken]
  rw [step_of_shallower fun l hl => ⟨_, rfl, left_shallower _ _ l (hleft ▸ hl)⟩, close,
    OpenBlock.consumed, Nat.add_sub_cancel_left]

/-- **A walk ends with what `group` makes of the lines.** -/
theorem reaches_ended (start : Nat) (level : Option Nat) (h : lines.drop start = rest) :
    ∃ n ≤ 3 * taken (levelOf level rest) rest + 1,
      Reaches lines n (.inside ⟨start, level, [], start⟩ [])
        (.ended (group (levelOf level rest) rest).nodes (taken (levelOf level rest) rest)) := by
  subst h
  cases level with
  | some level =>
    obtain ⟨n, hn, hreads⟩ := readsGroup lines level _ start rfl start [] []
    exact ⟨n + 1, Nat.succ_le_succ hn, hreads.tail (step_behind_group lines start level _)⟩
  | none =>
    have hclosed := step_behind_group lines start (rootLevel (lines.drop start))
      (group (rootLevel (lines.drop start)) (lines.drop start)).nodes
    rw [levelOf, Option.getD_none]
    cases hdrop : lines.drop start with
    | nil =>
      have hnone : step lines (.inside ⟨start, none, [], start⟩ []) = .ended [] 0 := by
        rw [step_of_shallower (by simp [hdrop]), close, OpenBlock.consumed, Nat.sub_self]
      rw [taken, group_nil]
      exact ⟨1, Nat.le_refl _, Reaches.head hnone (.refl _)⟩
    | cons line rest =>
      -- the first line sets the level, and the block goes on as one at this level
      obtain ⟨hline, hrest⟩ := getElem?_of_drop hdrop
      obtain ⟨n, hn, hreads⟩ := readsGroup lines line.indent rest _ hrest start [.line line] []
      have htaken : step lines (.inside ⟨start, none, [], start⟩ [])
          = .inside ⟨start, some line.indent, [.line line], start + 1⟩ [] :=
        step_of_level hline (by simp)
      rw [hdrop, rootLevel, taken_of_eq, nodes_group_of_eq, Nat.add_comm (taken _ _),
        ← Nat.add_assoc] at hclosed
      rw [rootLevel, taken_of_eq, nodes_group_of_eq, Nat.add_comm (taken _ _)]
      exact ⟨n + 1 + 1, by omega, .head htaken (hreads.tail hclosed)⟩

end Walk

open Walk

/-- The first `n` lines are there, and none of them is shallower than the level. -/
def IsRun (level : Nat) (lines : List Line) (n : Nat) : Prop :=
  n ≤ lines.length ∧ ∀ line ∈ lines.take n, level ≤ line.indent

theorem take_taken (level : Nat) (lines : List Line) :
    lines.take (taken level lines) = Block.lines (group level lines).nodes :=
  (congrArg (List.take _) (lines_group level lines).symm).trans List.take_left

/-- **What `group` takes is the longest run of lines that are not shallower.** -/
theorem isGreatest_taken (level : Nat) (lines : List Line) :
    IsGreatest {n | IsRun level lines n} (taken level lines) := by
  constructor
  · have hlength := congrArg List.length (lines_group level lines)
    rw [List.length_append] at hlength
    refine ⟨Nat.le.intro hlength, fun line hline => ?_⟩
    rw [take_taken, lines_nodes_group] at hline
    have htaken : atLeast level line = true := List.mem_takeWhile_imp hline
    exact of_decide_eq_true htaken
  · -- a longer run would have the first line that is left in it
    rintro n ⟨hn, hrun⟩
    by_contra hlt
    rw [Nat.not_le] at hlt
    have hshallower := left_shallower level lines lines[taken level lines] (by
      rw [← drop_taken, List.head?_drop]
      exact List.getElem?_eq_getElem (hlt.trans_le hn))
    have hdeep := hrun lines[taken level lines] (List.mem_take_iff_getElem.mpr
      ⟨taken level lines, lt_min hlt (hlt.trans_le hn), rfl⟩)
    omega

/-- **Grouping with a cursor ends, behind the longest run of lines.** Whatever the lines, the place
to start at and the level, or none for that of the line there, the walk ends after at most three
steps for each line that it consumes and one more. It consumes the longest run of lines that are not
shallower; its nodes hold these lines in order, and are those that `group` makes. A line that is
deeper than the block opens a block and is not consumed by that step; that block ends, and the one
around it goes on at least one line further. -/
theorem walk_takes_longest_run (lines : List Line) :
    (∀ (start : Nat) (level : Option Nat), ∃ nodes consumed,
      (∃ n ≤ 3 * consumed + 1,
        Reaches lines n (.inside ⟨start, level, [], start⟩ []) (.ended nodes consumed))
      ∧ IsGreatest {n | IsRun (levelOf level (lines.drop start)) (lines.drop start) n} consumed
      ∧ Block.lines nodes = (lines.drop start).take consumed
      ∧ nodes = (group (levelOf level (lines.drop start)) (lines.drop start)).nodes)
    ∧ ∀ (block : OpenBlock) (around : List OpenBlock) (line : Line) (level : Nat),
      lines[block.cursor]? = some line → block.level = some level → level < line.indent →
      step lines (.inside block around) = .inside (block.opened line) (block :: around)
        ∧ ∃ children consumed n, 0 < consumed
          ∧ Reaches lines n (.inside (block.opened line) (block :: around))
            (.inside (block.behind children consumed) around) := by
  refine ⟨fun start level => ?_, fun block around line level hline hlevel hlt => ?_⟩
  · exact ⟨_, _, reaches_ended start level rfl, isGreatest_taken _ _, (take_taken _ _).symm, rfl⟩
  · obtain ⟨hbound, rfl⟩ := List.getElem?_eq_some_iff.mp hline
    obtain ⟨hopened, n, -, hbehind⟩ := reaches_behind block around
      (List.drop_eq_getElem_cons hbound) hlevel hlt (readsGroup lines _ _)
    exact ⟨hopened, _, _, n, Nat.succ_pos _, hbehind⟩

/-- Lines at levels that none of the lines before them set. -/
def raggedLines : List Line :=
  [⟨"a", 1, ⟨0, 1⟩⟩, ⟨"b", 3, ⟨2, 3⟩⟩, ⟨"c", 2, ⟨4, 5⟩⟩, ⟨"d", 0, ⟨6, 7⟩⟩]

theorem walk_takes_longest_run_raggedLines :
    ∃ children consumed n, 0 < consumed
      ∧ Reaches raggedLines n
        (.inside (OpenBlock.opened ⟨0, some 1, [], 1⟩ ⟨"b", 3, ⟨2, 3⟩⟩) [⟨0, some 1, [], 1⟩])
        (.inside (OpenBlock.behind ⟨0, some 1, [], 1⟩ children consumed) []) :=
  ((walk_takes_longest_run raggedLines).2 ⟨0, some 1, [], 1⟩ [] ⟨"b", 3, ⟨2, 3⟩⟩ 1 rfl rfl
    (by decide)).2

end CheckScript
