/-!
# Blank characters

What counts as blank between the words of a line, around a line and around a value: the characters
with the Unicode property `White_Space`. Look-alikes without the property, such as the zero-width
space, are ordinary characters.

## Contents

* `isBlank`: the class.
* `trimStart`, `trimEnd`, `trim`: blanks taken off the ends.
* `words`: the maximal runs of characters that are not blank.
-/

namespace CheckScript.Text

/-- The characters with the property `White_Space`. -/
def isBlank (c : Char) : Bool :=
  let n := c.toNat
  (0x9 ≤ n && n ≤ 0xD) || n == 0x20 || n == 0x85 || n == 0xA0 || n == 0x1680
    || (0x2000 ≤ n && n ≤ 0x200A) || n == 0x2028 || n == 0x2029 || n == 0x202F || n == 0x205F
    || n == 0x3000

/-- Core's five ASCII blanks are blank. -/
theorem isBlank_of_isWhitespace {c : Char} (h : c.isWhitespace = true) : isBlank c = true := by
  simp only [Char.isWhitespace, Bool.or_eq_true, decide_eq_true_eq] at h
  rcases h with ((rfl | rfl) | rfl) | rfl <;> decide

/-! ## Trimming -/

/-- The text from its first character that is not blank. -/
def trimStart (cs : List Char) : List Char := cs.dropWhile isBlank

/-- The text up to its last character that is not blank. -/
def trimEnd (cs : List Char) : List Char := (cs.reverse.dropWhile isBlank).reverse

/-- The text without the blanks at its ends. -/
def trim (cs : List Char) : List Char := trimEnd (trimStart cs)

/-- The text without the blanks at its ends. -/
def trimText (s : String) : String := String.ofList (trim s.toList)

@[simp] theorem trimStart_nil : trimStart [] = [] := rfl

theorem trimStart_cons_of_blank {c : Char} (h : isBlank c = true) (cs : List Char) :
    trimStart (c :: cs) = trimStart cs := by
  simp [trimStart, h]

theorem trimStart_cons_of_not_blank {c : Char} (h : isBlank c = false) (cs : List Char) :
    trimStart (c :: cs) = c :: cs := by
  simp [trimStart, h]

/-! ## Words -/

/-- Puts `c` in front of the first word. -/
def consWord (c : Char) : List (List Char) → List (List Char)
  | [] => [[c]]
  | w :: ws => (c :: w) :: ws

/-- The text starts inside a word. -/
def startsWord : List Char → Bool
  | [] => false
  | c :: _ => !isBlank c

/-- The maximal runs of characters that are not blank, in order. -/
def words : List Char → List (List Char)
  | [] => []
  | c :: cs =>
    if isBlank c then words cs
    else if startsWord cs then consWord c (words cs)
    else [c] :: words cs

@[simp] theorem words_nil : words [] = [] := rfl

theorem words_cons_of_blank {c : Char} (h : isBlank c = true) (cs : List Char) :
    words (c :: cs) = words cs := by
  rw [words, if_pos h]

theorem ne_nil_of_mem_consWord {c : Char} {ws : List (List Char)} (h : ∀ w ∈ ws, w ≠ []) :
    ∀ w ∈ consWord c ws, w ≠ [] := by
  cases ws with
  | nil => simp [consWord]
  | cons v vs =>
    intro w hw
    rcases List.mem_cons.mp hw with rfl | hw
    · simp
    · exact h w (List.mem_cons_of_mem _ hw)

/-- No word is empty. -/
theorem ne_nil_of_mem_words : ∀ (cs : List Char), ∀ w ∈ words cs, w ≠ []
  | [], w, h => by simp at h
  | c :: cs, w, h => by
    have ih := ne_nil_of_mem_words cs
    rw [words] at h
    split at h
    · exact ih w h
    · split at h
      · exact ne_nil_of_mem_consWord ih w h
      · rcases List.mem_cons.mp h with rfl | h
        · simp
        · exact ih w h

end CheckScript.Text
