import CheckScript.Source.Line
import Mathlib.Data.Finset.Card

/-!
# Open levels

A level is open at a line if it is the least one of the lines from some line up to this one. A line
opens its own level and closes all deeper ones (`openLevels_append`), and a level stays open as long
as no line is shallower (`openLevels_cons_of_le`).
-/

namespace CheckScript

/-- The least level of some lines. -/
def leastLevel (lines : List Line) : Option Nat := (lines.map Line.indent).min?

/-- The least levels of the lines from any of them to the last one. -/
def openLevels (lines : List Line) : Finset (Option Nat) :=
  (Finset.range lines.length).image fun j => leastLevel (lines.drop j)

theorem leastLevel_eq_some_iff {lines : List Line} {level : Nat} :
    leastLevel lines = some level
      ↔ (∃ line ∈ lines, line.indent = level) ∧ ∀ line ∈ lines, level ≤ line.indent := by
  rw [leastLevel, List.min?_eq_some_iff]
  simp

theorem openLevels_cons (line : Line) (rest : List Line) :
    openLevels (line :: rest) = insert (leastLevel (line :: rest)) (openLevels rest) := by
  rw [openLevels, List.length_cons, Finset.range_add_one', Finset.image_insert,
    Finset.map_eq_image, Finset.image_image]
  rfl

theorem leastLevel_mem_openLevels (line : Line) (rest : List Line) :
    leastLevel (line :: rest) ∈ openLevels (line :: rest) := by
  rw [openLevels_cons]
  exact Finset.mem_insert_self _ _

/-- A line in front of lines that are not shallower opens its level. -/
theorem openLevels_cons_of_le {line : Line} {rest : List Line}
    (h : ∀ l ∈ rest, line.indent ≤ l.indent) :
    openLevels (line :: rest) = insert (some line.indent) (openLevels rest) := by
  have hleast : leastLevel (line :: rest) = some line.indent :=
    leastLevel_eq_some_iff.mpr ⟨⟨line, List.mem_cons_self, rfl⟩,
      List.forall_mem_cons.mpr ⟨Nat.le_refl _, h⟩⟩
  rw [openLevels_cons, hleast]

theorem le_of_mem_openLevels {lines : List Line} {level low : Nat}
    (h : ∀ line ∈ lines, low ≤ line.indent) (hlevel : some level ∈ openLevels lines) :
    low ≤ level := by
  obtain ⟨j, -, hleast⟩ := Finset.mem_image.mp hlevel
  obtain ⟨⟨line, hline, rfl⟩, -⟩ := leastLevel_eq_some_iff.mp hleast
  exact h line (List.mem_of_mem_drop hline)

theorem leastLevel_append {lines more : List Line} {next : Line}
    (h : ∀ line ∈ lines, next.indent ≤ line.indent) :
    leastLevel (lines ++ next :: more) = leastLevel (next :: more) := by
  obtain ⟨level, hlevel⟩ : ∃ level, leastLevel (next :: more) = some level := by
    rw [leastLevel, List.map_cons, List.min?_cons']
    exact ⟨_, rfl⟩
  obtain ⟨⟨least, hleast, heq⟩, hle⟩ := leastLevel_eq_some_iff.mp hlevel
  rw [hlevel, leastLevel_eq_some_iff]
  refine ⟨⟨least, List.mem_append_right _ hleast, heq⟩, List.forall_mem_append.mpr ⟨?_, hle⟩⟩
  exact fun line hline => (hle next List.mem_cons_self).trans (h line hline)

/-- **A line closes the levels of the lines before it that are not shallower.** -/
theorem openLevels_append {lines more : List Line} {next : Line}
    (h : ∀ line ∈ lines, next.indent ≤ line.indent) :
    openLevels (lines ++ next :: more) = openLevels (next :: more) := by
  induction lines with
  | nil => rfl
  | cons line rest ih =>
    have hleast : leastLevel (line :: (rest ++ next :: more)) = leastLevel (next :: more) :=
      leastLevel_append h
    rw [List.cons_append, openLevels_cons, hleast, ih fun l hl => h l (List.mem_cons_of_mem _ hl)]
    exact Finset.insert_eq_of_mem (leastLevel_mem_openLevels next more)

end CheckScript
