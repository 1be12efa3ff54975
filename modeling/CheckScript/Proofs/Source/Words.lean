import CheckScript.Proofs.Source.Places

/-!
# The words of a line

The words of a text are what stands between its blanks (`words_eq_iff`). They do not depend on how
many blanks there are, nor on which, so the words of a line with one space between any two are a
normal form of it: they have the same words again (`words_intercalate`), and no blank in them can be
left out or replaced (`spaced_intercalate`).

A line is taken apart by two scans, one for its command and one for its argument, and the place of
the command is computed from a length. That the three fit together rests on the command and the
argument being the words of the line, cut behind the first one.

## Main statement

* `command_argument_normalForm`: the words of command and argument are those of the line, the
  argument is in normal form, the line made of both has the same command and argument, and the
  place of the command cuts it out of the text.
-/

namespace CheckScript

namespace Text

variable {cs w : List Char} {ws : List (List Char)}

/-! ## What the words are -/

/-- Characters that are not blank, and at least one. -/
structure IsWord (w : List Char) : Prop where
  ne_nil : w ≠ []
  not_blank : ∀ c ∈ w, isBlank c = false

/-- The text is these words in order, with blanks around them and at least one between any two. -/
inductive Tokenized : List Char → List (List Char) → Prop
  | blank {cs : List Char} : AllBlank cs → Tokenized cs []
  | word {lead w rest : List Char} {ws : List (List Char)} : AllBlank lead → IsWord w →
    startsWord rest = false → Tokenized rest ws → Tokenized (lead ++ (w ++ rest)) (w :: ws)

/-- A word in front of a text that does not go on with it is its first word. -/
theorem words_word_append {rest : List Char} (hw : IsWord w) (h : startsWord rest = false) :
    words (w ++ rest) = w :: words rest := by
  cases rest with
  | nil => rw [List.append_nil, words_of_not_blank hw.ne_nil hw.not_blank, words_nil]
  | cons b rest =>
    have hb : isBlank b = true := by simpa [startsWord] using h
    rw [words_append_cons_of_blank hb, words_of_not_blank hw.ne_nil hw.not_blank,
      words_cons_of_blank hb]
    rfl

theorem Tokenized.words_eq (h : Tokenized cs ws) : words cs = ws := by
  induction h with
  | blank hblank => exact words_eq_nil_iff.mpr hblank
  | word hlead hw hrest _ ih => rw [words_blanks_append hlead, words_word_append hw hrest, ih]

theorem Tokenized.cons_blank {b : Char} (hb : isBlank b = true) (h : Tokenized cs ws) :
    Tokenized (b :: cs) ws := by
  have hfront {lead : List Char} (hlead : AllBlank lead) : AllBlank (b :: lead) :=
    List.forall_mem_cons.mpr ⟨hb, hlead⟩
  cases h with
  | blank hblank => exact .blank (hfront hblank)
  | word hlead hw hrest hws => exact .word (hfront hlead) hw hrest hws

/-- A character in front of a text that starts with a word makes that word longer. -/
theorem Tokenized.consWord {c : Char} (hc : isBlank c = false) (hstart : startsWord cs = true)
    (h : Tokenized cs ws) : Tokenized (c :: cs) (consWord c ws) := by
  cases h with
  | blank hblank =>
    cases cs with
    | nil => simp [startsWord] at hstart
    | cons d ds => simp [startsWord, hblank d List.mem_cons_self] at hstart
  | @word lead w rest ws hlead hw hrest hws =>
    have hlong : IsWord (c :: w) :=
      ⟨List.cons_ne_nil _ _, List.forall_mem_cons.mpr ⟨hc, hw.not_blank⟩⟩
    cases lead with
    | nil => exact .word allBlank_nil hlong hrest hws
    | cons b lead => simp [startsWord, hlead b List.mem_cons_self] at hstart

theorem tokenized_words (cs : List Char) : Tokenized cs (words cs) := by
  induction cs with
  | nil => exact .blank allBlank_nil
  | cons c cs ih =>
    rw [words]
    split
    · next hc => exact ih.cons_blank hc
    · next hc =>
      rw [Bool.not_eq_true] at hc
      split
      · next hstart => exact ih.consWord hc hstart
      · next hstart =>
        have hsole : IsWord [c] := ⟨List.cons_ne_nil _ _, by simpa using hc⟩
        exact .word allBlank_nil hsole (by simpa using hstart) ih

/-- **The words of a text are what stands between its blanks.** -/
theorem words_eq_iff : words cs = ws ↔ Tokenized cs ws :=
  ⟨fun h => h ▸ tokenized_words cs, Tokenized.words_eq⟩

theorem Tokenized.isWord (h : Tokenized cs ws) : ∀ w ∈ ws, IsWord w := by
  induction h with
  | blank => simp
  | word _ hw _ _ ih => exact List.forall_mem_cons.mpr ⟨hw, ih⟩

/-! ## Words with one space between them -/

/-- A text that is not empty, has no blank at its ends, no blank but spaces, and no two of them next
to each other. -/
structure Spaced (cs : List Char) : Prop where
  ne_nil : cs ≠ []
  first : ∀ c ∈ cs.head?, isBlank c = false
  last : ∀ c ∈ cs.getLast?, isBlank c = false
  space : ∀ c ∈ cs, isBlank c = true → c = ' '
  single : ¬[' ', ' '] <:+: cs

theorem Tokenized.intercalate (h : ∀ w ∈ ws, IsWord w) :
    Tokenized ([' '].intercalate ws) ws := by
  induction ws with
  | nil => exact .blank allBlank_nil
  | cons w ws ih =>
    obtain ⟨hw, hws⟩ := List.forall_mem_cons.mp h
    cases ws with
    | nil =>
      have hsole : Tokenized ([] ++ (w ++ [])) [w] :=
        .word allBlank_nil hw rfl (.blank allBlank_nil)
      rw [List.intercalate_singleton]
      rwa [List.nil_append, List.append_nil] at hsole
    | cons v vs =>
      have hspace : isBlank ' ' = true := by decide
      have hgap : startsWord (' ' :: [' '].intercalate (v :: vs)) = false := by
        simp [startsWord, hspace]
      rw [List.intercalate_cons_cons, List.append_assoc]
      exact .word allBlank_nil hw hgap ((ih hws).cons_blank hspace)

/-- **Words with spaces between them are the words of what they make.** -/
theorem words_intercalate (h : ∀ w ∈ ws, IsWord w) : words ([' '].intercalate ws) = ws :=
  (Tokenized.intercalate h).words_eq

theorem IsWord.spaced (h : IsWord w) : Spaced w where
  ne_nil := h.ne_nil
  first c hc := h.not_blank c (List.mem_of_mem_head? hc)
  last c hc := h.not_blank c (List.mem_of_mem_getLast? hc)
  space c hc hblank := by simp [h.not_blank c hc] at hblank
  single htwo := by
    have hspace := h.not_blank ' ' (htwo.subset List.mem_cons_self)
    simp [isBlank] at hspace

theorem not_two_spaces (hw : ∀ c ∈ w, isBlank c = false) (h : Spaced cs) :
    ¬[' ', ' '] <:+: w ++ ' ' :: cs := by
  induction w with
  | nil =>
    rw [List.nil_append, List.infix_cons_iff]
    rintro (hfront | hbehind)
    · -- the second one would be the first character of the text
      obtain ⟨rest, hrest⟩ := hfront
      have hspace := h.first ' ' (by rw [← (List.cons.inj hrest).2]; rfl)
      simp [isBlank] at hspace
    · exact h.single hbehind
  | cons c w ih =>
    obtain ⟨hc, hw⟩ := List.forall_mem_cons.mp hw
    rw [List.cons_append, List.infix_cons_iff]
    rintro (hfront | hbehind)
    · obtain ⟨rfl, -⟩ := List.cons_prefix_cons.mp hfront
      simp [isBlank] at hc
    · exact ih hw hbehind

theorem Spaced.word_append (hw : IsWord w) (h : Spaced cs) : Spaced (w ++ ' ' :: cs) where
  ne_nil := by simp
  first c hc := by
    rw [List.head?_append_of_ne_nil _ hw.ne_nil] at hc
    exact hw.spaced.first c hc
  last c hc := by
    rw [List.getLast?_append_of_ne_nil _ (List.cons_ne_nil _ _),
      List.getLast?_cons_of_ne_nil h.ne_nil] at hc
    exact h.last c hc
  space c hc hblank := by
    rcases List.mem_append.mp hc with hc | hc
    · exact hw.spaced.space c hc hblank
    · rcases List.mem_cons.mp hc with rfl | hc
      · rfl
      · exact h.space c hc hblank
  single := not_two_spaces hw.not_blank h

theorem spaced_intercalate (hne : ws ≠ []) (h : ∀ w ∈ ws, IsWord w) :
    Spaced ([' '].intercalate ws) := by
  induction ws with
  | nil => exact absurd rfl hne
  | cons w ws ih =>
    obtain ⟨hw, hws⟩ := List.forall_mem_cons.mp h
    cases ws with
    | nil =>
      rw [List.intercalate_singleton]
      exact hw.spaced
    | cons v vs =>
      rw [List.intercalate_cons_cons, List.append_assoc]
      exact (ih (List.cons_ne_nil _ _) hws).word_append hw

end Text

open Text

namespace Line

/-! ## Command and argument -/

theorem isWord_of_mem_words {line : Line} : ∀ w ∈ line.words, IsWord w :=
  (tokenized_words _).isWord

theorem words_command (line : Line) : Text.words line.command.toList = line.words.take 1 := by
  cases hwords : line.words with
  | nil => rw [command, hwords]; rfl
  | cons w ws =>
    have hw : IsWord w := isWord_of_mem_words w (hwords ▸ List.mem_cons_self)
    rw [command, hwords, List.headD_cons, String.toList_ofList,
      words_of_not_blank hw.ne_nil hw.not_blank]
    rfl

theorem words_argument (line : Line) :
    Text.words (line.argument.getD "").toList = line.words.drop 1 := by
  have hrest : ∀ w ∈ line.words.tail, IsWord w := fun w hw =>
    isWord_of_mem_words w (List.mem_of_mem_tail hw)
  rw [argument, List.drop_one]
  split
  · next hnil => rw [hnil]; rfl
  · rw [Option.getD_some, String.toList_ofList, words_intercalate hrest]

/-- Lines with the same words have the same command and argument. -/
theorem command_argument_congr {line other : Line} (h : other.words = line.words) :
    other.command = line.command ∧ other.argument = line.argument := by
  rw [command, command, argument, argument, h]
  exact ⟨rfl, rfl⟩

/-- The command, one space and the argument have the words of the line. -/
theorem words_command_space_argument (line : Line) :
    Text.words (line.command ++ " " ++ line.argument.getD "").toList = line.words := by
  have htext : (line.command ++ " " ++ line.argument.getD "").toList
      = line.command.toList ++ ' ' :: (line.argument.getD "").toList := by simp
  rw [htext, words_append_cons_of_blank (by decide), words_command, words_argument,
    List.take_append_drop]

/-- The command alone has the words of a line without an argument. -/
theorem words_command_of_argument_none {line : Line} (h : line.argument = none) :
    Text.words line.command.toList = line.words := by
  have hrest := line.words_argument
  rw [h, Option.getD_none, String.toList_empty, words_nil] at hrest
  rw [words_command, ← List.append_nil (line.words.take 1), hrest, List.take_append_drop]

theorem spaced_argument {line : Line} {a : String} (h : line.argument = some a) :
    Spaced a.toList := by
  rw [argument] at h
  split at h
  · cases h
  · next hrest =>
    obtain rfl := Option.some.inj h
    rw [String.toList_ofList]
    exact spaced_intercalate hrest fun w hw => isWord_of_mem_words w (List.mem_of_mem_tail hw)

/-! ## The place of the command -/

/-- The place of the command, seen from the start of the line. -/
theorem cuts_command {line : Line} (h : ∀ c ∈ line.text.toList.head?, isBlank c = false) :
    Span.Cuts ⟨0, byteLength line.command.toList⟩ line.text.toList line.command.toList := by
  obtain ⟨rest, hrest⟩ := command_prefix h
  refine ⟨[], rest, ?_, ?_, ?_⟩
  · rw [List.nil_append, hrest]
  · rw [byteLength_nil]
  · rw [byteLength_nil, Nat.zero_add]

/-- **The command and the argument are a normal form of a line.** Whatever the text of the line: it
consists of the words of its command and, behind them, those of its argument. The argument is not
empty and has single spaces between its words and no other blanks. Another line that is made of the
command, a space and the argument, or of the command alone if there is no argument, has the same
command and argument. And where the text does not start with a blank, the span of the command, seen
from the start of the line, cuts the command out of the text. -/
theorem command_argument_normalForm (line : Line) :
    (∃ front behind, Tokenized line.command.toList front
      ∧ Tokenized (line.argument.getD "").toList behind
      ∧ Tokenized line.text.toList (front ++ behind))
    ∧ (∀ a, line.argument = some a → Spaced a.toList)
    ∧ (∀ other : Line, other.text = line.command ++ " " ++ line.argument.getD ""
        ∨ line.argument = none ∧ other.text = line.command →
      other.command = line.command ∧ other.argument = line.argument)
    ∧ ((∀ c ∈ line.text.toList.head?, isBlank c = false) → ∃ relative : Span,
      line.commandSpan = ⟨line.span.start + relative.start, line.span.start + relative.stop⟩
      ∧ relative.Cuts line.text.toList line.command.toList
      ∧ relative.bytes line.text = line.command.toUTF8) := by
  refine ⟨?_, fun a h => spaced_argument h, fun other h => ?_, fun h => ?_⟩
  · refine ⟨line.words.take 1, line.words.drop 1, ?_, ?_, ?_⟩
    · exact words_eq_iff.mp line.words_command
    · exact words_eq_iff.mp line.words_argument
    · rw [List.take_append_drop]
      exact tokenized_words _
  · refine command_argument_congr ?_
    rcases h with h | ⟨hnone, h⟩
    · rw [words, h, words_command_space_argument]
    · rw [words, h, words_command_of_argument_none hnone]
  · exact ⟨⟨0, byteLength line.command.toList⟩, rfl, cuts_command h,
      bytes_of_cuts (cuts_command h)⟩

/-- A line with blanks of several widths, and a look-alike that is none. -/
def mixedLine : Line := ⟨"say\u3000 a\u200b\t b ", 1, ⟨7, 22⟩⟩

theorem command_argument_normalForm_mixedLine :
    mixedLine.argument = some "a\u200b b" ∧ Spaced "a\u200b b".toList
    ∧ (⟨"say a\u200b b", 0, ⟨0, 9⟩⟩ : Line).argument = some "a\u200b b"
    ∧ ∃ relative : Span, mixedLine.commandSpan = ⟨7 + relative.start, 7 + relative.stop⟩
      ∧ relative.Cuts mixedLine.text.toList "say".toList := by
  have hcommand : mixedLine.command = "say" := by decide
  have hargument : mixedLine.argument = some "a\u200b b" := by decide
  have hfirst : ∀ c ∈ mixedLine.text.toList.head?, isBlank c = false := by
    rw [show mixedLine.text.toList.head? = some 's' by decide]
    rintro _ ⟨⟩
    decide
  obtain ⟨-, hspaced, hsame, hcuts⟩ := command_argument_normalForm mixedLine
  obtain ⟨-, hother⟩ := hsame ⟨"say a\u200b b", 0, ⟨0, 9⟩⟩
    (.inl (by rw [hcommand, hargument]; decide))
  obtain ⟨relative, hspan, hcut, -⟩ := hcuts hfirst
  rw [hargument] at hother
  rw [hcommand] at hcut
  exact ⟨hargument, hspaced _ hargument, hother, relative, hspan, hcut⟩

end Line

end CheckScript
