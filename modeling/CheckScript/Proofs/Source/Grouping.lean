import CheckScript.Source.Layout
import Mathlib.Data.List.TakeWhile

/-!
# What grouping does to a list of lines

`group level` takes the longest run of lines that are not shallower than `level`
(`left_group`, `lines_nodes_group`), so a script has a tree iff no line is shallower than its first
one (`groupAll_eq_ok_iff`), and otherwise the first such line is blamed (`groupAll_eq_error_iff`).

Grouping is local: what is read from a run of lines does not depend on what follows it, as long as
that is no deeper than the block (`nodes_group_append`), and deeper lines behind a line of the block
are one more node of it (`nodes_group_append_block`).

`group_induction` follows the recursion of `group`, with its four cases by name.
-/

namespace CheckScript

/-! ## One step -/

@[simp] theorem group_nil (level : Nat) : group level [] = ⟨[], [], Nat.le_refl _⟩ := by
  rw [group]

theorem nodes_group_of_lt {level : Nat} {line : Line} (h : line.indent < level)
    (rest : List Line) : (group level (line :: rest)).nodes = [] := by
  rw [group, if_pos h]

theorem nodes_group_of_gt {level : Nat} {line : Line} (h : level < line.indent)
    (rest : List Line) :
    (group level (line :: rest)).nodes
      = .block (.line line :: (group line.indent rest).nodes)
        :: (group level (group line.indent rest).left).nodes := by
  rw [group, if_neg (Nat.not_lt.mpr (Nat.le_of_lt h)), if_pos h]

theorem nodes_group_of_eq (line : Line) (rest : List Line) :
    (group line.indent (line :: rest)).nodes = .line line :: (group line.indent rest).nodes := by
  rw [group, if_neg (Nat.lt_irrefl _), if_neg (Nat.lt_irrefl _)]

@[elab_as_elim]
theorem group_induction {motive : Nat → List Line → Prop}
    (nil : ∀ level, motive level [])
    (shallower : ∀ level line rest, line.indent < level → motive level (line :: rest))
    (deeper : ∀ level line rest, level < line.indent → motive line.indent rest →
      motive level (group line.indent rest).left → motive level (line :: rest))
    (same : ∀ line rest, motive line.indent rest → motive line.indent (line :: rest))
    (level : Nat) (lines : List Line) : motive level lines := by
  fun_induction group level lines with
  | case1 level => exact nil level
  | case2 level line rest h => exact shallower level line rest h
  | case3 level line rest _ h inner afterInner _ eInner outer left _ eOuter ihInner ihOuter =>
    refine deeper level line rest h ihInner ?_
    rw [eInner]
    exact ihOuter
  | case4 level line rest h1 h2 nodes left _ e ih =>
    obtain rfl : level = line.indent := by omega
    exact same line rest ih

/-! ## The lines that are taken -/

/-- The line is not shallower than the level. -/
def atLeast (level : Nat) (line : Line) : Bool := decide (level ≤ line.indent)

theorem dropWhile_atLeast_dropWhile {level inner : Nat} (h : level ≤ inner) (lines : List Line) :
    (lines.dropWhile (atLeast inner)).dropWhile (atLeast level)
      = lines.dropWhile (atLeast level) := by
  induction lines with
  | nil => rfl
  | cons line rest ih =>
    by_cases hline : inner ≤ line.indent
    · have hin : atLeast inner line = true := decide_eq_true hline
      have hout : atLeast level line = true := decide_eq_true (h.trans hline)
      rw [List.dropWhile_cons_of_pos hin, List.dropWhile_cons_of_pos hout, ih]
    · have hin : ¬atLeast inner line = true := by simpa [atLeast] using hline
      rw [List.dropWhile_cons_of_neg hin]

/-- **What is left starts with the first line that is shallower than the block.** -/
theorem left_group (level : Nat) (lines : List Line) :
    (group level lines).left = lines.dropWhile (atLeast level) := by
  induction level, lines using group_induction with
  | nil level => rw [group_nil]; rfl
  | shallower level line rest h =>
    have hline : ¬atLeast level line = true := by simpa [atLeast] using h
    rw [group, if_pos h, List.dropWhile_cons_of_neg hline]
  | deeper level line rest h ihInner ihOuter =>
    have hline : atLeast level line = true := decide_eq_true h.le
    rw [group, if_neg (Nat.not_lt.mpr h.le), if_pos h, List.dropWhile_cons_of_pos hline]
    show (group level (group line.indent rest).left).left = _
    rw [ihOuter, ihInner, dropWhile_atLeast_dropWhile h.le]
  | same line rest ih =>
    have hline : atLeast line.indent line = true := decide_eq_true (Nat.le_refl _)
    rw [group, if_neg (Nat.lt_irrefl _), if_neg (Nat.lt_irrefl _),
      List.dropWhile_cons_of_pos hline]
    exact ih

/-- **The lines that are taken are the longest run of lines that are not shallower.** -/
theorem lines_nodes_group (level : Nat) (lines : List Line) :
    Block.lines (group level lines).nodes = lines.takeWhile (atLeast level) := by
  have h := lines_group level lines
  rw [left_group] at h
  refine List.append_cancel_right (h.trans ?_)
  exact List.takeWhile_append_dropWhile.symm

theorem left_group_eq_nil_iff {level : Nat} {lines : List Line} :
    (group level lines).left = [] ↔ ∀ line ∈ lines, level ≤ line.indent := by
  rw [left_group, List.dropWhile_eq_nil_iff]
  simp [atLeast]

theorem mem_of_mem_left {level : Nat} {lines : List Line} {line : Line}
    (h : line ∈ (group level lines).left) : line ∈ lines := by
  rw [left_group] at h
  exact (List.dropWhile_suffix _).subset h

/-! ## Whole scripts -/

/-- The level of a script: that of its first line. -/
def rootLevel : List Line → Nat
  | [] => 0
  | first :: _ => first.indent

/-- No line is shallower than the first one. -/
def NoneShallower (lines : List Line) : Prop := ∀ line ∈ lines, rootLevel lines ≤ line.indent

instance (lines : List Line) : Decidable (NoneShallower lines) :=
  inferInstanceAs (Decidable (∀ line ∈ lines, rootLevel lines ≤ line.indent))

theorem groupAll_cons (first : Line) (rest : List Line) :
    groupAll (first :: rest)
      = match (group first.indent (first :: rest)).left with
        | [] => .ok (group first.indent (first :: rest)).nodes
        | stray :: _ => .error ⟨first, stray⟩ := by
  rw [groupAll]
  cases group first.indent (first :: rest) with
  | mk nodes left _ => cases left <;> rfl

/-- **A script has a tree iff no line is shallower than its first one.** -/
theorem groupAll_eq_ok_iff {lines : List Line} {root : Block} :
    groupAll lines = .ok root
      ↔ NoneShallower lines ∧ root = (group (rootLevel lines) lines).nodes := by
  cases lines with
  | nil => simp [groupAll, NoneShallower, eq_comm]
  | cons first rest =>
    have hleft : (group first.indent (first :: rest)).left = [] ↔ NoneShallower (first :: rest) :=
      left_group_eq_nil_iff
    rw [groupAll_cons, ← hleft]
    show _ ↔ _ ∧ root = (group first.indent (first :: rest)).nodes
    cases (group first.indent (first :: rest)).left with
    | nil => simp [eq_comm]
    | cons stray strays => simp

/-- `first` is the first of the lines, and `stray` the first of them that is shallower. -/
def FirstStray (lines : List Line) (first stray : Line) : Prop :=
  ∃ before after, lines = first :: (before ++ stray :: after)
    ∧ (∀ line ∈ before, first.indent ≤ line.indent) ∧ stray.indent < first.indent

theorem left_group_cons (first : Line) (rest : List Line) :
    (group first.indent (first :: rest)).left = rest.dropWhile (atLeast first.indent) := by
  have hfirst : atLeast first.indent first = true := decide_eq_true (Nat.le_refl _)
  rw [left_group, List.dropWhile_cons_of_pos hfirst]

/-- **Grouping fails on the first line that is shallower than the first one, and on no other.** -/
theorem groupAll_eq_error_iff {lines : List Line} {e : ParseError} :
    groupAll lines = .error e ↔ FirstStray lines e.first e.stray := by
  cases lines with
  | nil => simp [groupAll, FirstStray]
  | cons first rest =>
    rw [groupAll_cons, left_group_cons]
    constructor
    · intro h
      cases hleft : rest.dropWhile (atLeast first.indent) with
      | nil =>
        rw [hleft] at h
        cases h
      | cons stray after =>
        rw [hleft] at h
        cases h
        refine ⟨rest.takeWhile (atLeast first.indent), after, ?_, fun line hline => ?_, ?_⟩
        · rw [← hleft, List.takeWhile_append_dropWhile]
        · have htaken : atLeast first.indent line = true := List.mem_takeWhile_imp hline
          exact of_decide_eq_true htaken
        · have hstray := left_shallower first.indent (first :: rest) stray
          rw [left_group_cons, hleft] at hstray
          exact hstray rfl
    · rintro ⟨before, after, heq, hbefore, hstray⟩
      obtain ⟨rfl, rfl⟩ := List.cons.inj heq
      have htaken : ∀ line ∈ before, atLeast e.first.indent line = true :=
        fun line hline => decide_eq_true (hbefore line hline)
      have hnot : ¬atLeast e.first.indent e.stray = true := by simpa [atLeast] using hstray
      rw [List.dropWhile_append_of_pos htaken, List.dropWhile_cons_of_neg hnot]

/-! ## Lines one after the other -/

/-- What comes behind shallower lines stays behind them. -/
theorem left_group_append {level : Nat} {lines more : List Line}
    (h : ∀ next ∈ more.head?, next.indent < level) :
    (group level (lines ++ more)).left = (group level lines).left ++ more := by
  have hmore : more.dropWhile (atLeast level) = more := by
    cases more with
    | nil => rfl
    | cons next more =>
      exact List.dropWhile_cons_of_neg (by simpa [atLeast] using h next rfl)
  rw [left_group, left_group, List.dropWhile_append, hmore]
  split
  · next hnil => rw [List.isEmpty_iff.mp hnil, List.nil_append]
  · rfl

/-- A block does not see what follows a shallower line. -/
theorem nodes_group_append_of_lt {level : Nat} {lines more : List Line}
    (h : ∀ next ∈ more.head?, next.indent < level) :
    (group level (lines ++ more)).nodes = (group level lines).nodes := by
  induction level, lines using group_induction with
  | nil level =>
    cases more with
    | nil => rfl
    | cons next more =>
      rw [List.nil_append, nodes_group_of_lt (h next rfl), group_nil]
  | shallower level line rest hlt =>
    rw [List.cons_append, nodes_group_of_lt hlt, nodes_group_of_lt hlt]
  | deeper level line rest hlt ihInner ihOuter =>
    have hinner : ∀ next ∈ more.head?, next.indent < line.indent :=
      fun next hn => (h next hn).trans hlt
    rw [List.cons_append, nodes_group_of_gt hlt, nodes_group_of_gt hlt, ihInner hinner,
      left_group_append hinner, ihOuter h]
  | same line rest ih =>
    rw [List.cons_append, nodes_group_of_eq, nodes_group_of_eq, ih h]

/-- **A line that is no deeper than the block closes all that is open in it.** -/
theorem nodes_group_append {level : Nat} {lines more : List Line}
    (hlines : ∀ line ∈ lines, level ≤ line.indent)
    (hmore : ∀ next ∈ more.head?, next.indent ≤ level) :
    (group level (lines ++ more)).nodes
      = (group level lines).nodes ++ (group level more).nodes := by
  induction level, lines using group_induction with
  | nil level => rw [List.nil_append, group_nil, List.nil_append]
  | shallower level line rest hlt => exact absurd (hlines line List.mem_cons_self) (by omega)
  | deeper level line rest hlt _ ihOuter =>
    have hinner : ∀ next ∈ more.head?, next.indent < line.indent :=
      fun next hn => (hmore next hn).trans_lt hlt
    have hleft : ∀ l ∈ (group line.indent rest).left, level ≤ l.indent :=
      fun l hl => hlines l (List.mem_cons_of_mem _ (mem_of_mem_left hl))
    rw [List.cons_append, nodes_group_of_gt hlt, nodes_group_of_gt hlt,
      nodes_group_append_of_lt hinner, left_group_append hinner, ihOuter hleft hmore,
      List.cons_append]
  | same line rest ih =>
    rw [List.cons_append, nodes_group_of_eq, nodes_group_of_eq,
      ih (fun l hl => hlines l (List.mem_cons_of_mem _ hl)) hmore, List.cons_append]

/-- Lines that are all at least as deep as their first one are one block in a shallower one. -/
theorem nodes_group_of_deeper {level : Nat} {lines : List Line} (hne : lines ≠ [])
    (hnone : NoneShallower lines) (hlevel : level < rootLevel lines) :
    (group level lines).nodes = [.block (group (rootLevel lines) lines).nodes] := by
  cases lines with
  | nil => exact absurd rfl hne
  | cons line rest =>
    have hleft : (group line.indent rest).left = [] :=
      left_group_eq_nil_iff.mpr fun l hl => hnone l (List.mem_cons_of_mem _ hl)
    show (group level (line :: rest)).nodes = [.block (group line.indent (line :: rest)).nodes]
    rw [nodes_group_of_gt hlevel, nodes_group_of_eq, hleft, group_nil]

/-- **Deeper lines behind a line of the block are one more node of it.** -/
theorem nodes_group_append_block {level : Nat} {lines deeper : List Line} {last : Line}
    (hlines : ∀ line ∈ lines, level ≤ line.indent) (hlast : lines.getLast? = some last)
    (hlevel : last.indent = level) (hne : deeper ≠ []) (hnone : NoneShallower deeper)
    (hdeeper : level < rootLevel deeper) :
    (group level (lines ++ deeper)).nodes
      = (group level lines).nodes ++ [.block (group (rootLevel deeper) deeper).nodes] := by
  -- both sides are cut before the last line, with which all that was open is closed
  obtain ⟨before, rfl⟩ := List.getLast?_eq_some_iff.mp hlast
  subst hlevel
  have hbefore : ∀ line ∈ before, last.indent ≤ line.indent :=
    fun l hl => hlines l (List.mem_append_left _ hl)
  rw [List.append_assoc, nodes_group_append hbefore (by simp), nodes_group_append hbefore (by simp),
    List.cons_append, List.nil_append, nodes_group_of_eq, nodes_group_of_eq, group_nil,
    nodes_group_of_deeper hne hnone hdeeper, List.append_assoc]
  rfl

end CheckScript
