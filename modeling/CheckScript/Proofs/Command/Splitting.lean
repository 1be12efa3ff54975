import CheckScript.Command.Text
import CheckScript.Proofs.Source.Relayout
import CheckScript.Proofs.Text.Pieces

/-!
# Texts cut and joined by commands

`split` and `join` with the same separator are inverse to each other (`split_join_inverse`).

Without a separator `split` takes off line endings as well. It takes off one carriage return from
the end of a line, so a text with long line endings has the lines of the same text with short ones,
and what is joined again is the text without those carriage returns (`split_default_endings`).
-/

namespace CheckScript

open Text

namespace Command

/-- Called with this argument, the command answers the input with the output, whatever the context,
which it leaves as it was. -/
def Answers (build : Factory) (argument : Option String) (input output : Value) : Prop :=
  ∃ step, build argument = .ok step ∧ ∀ context, step.run context input = ⟨.ok output, context⟩

/-- The list of these texts. -/
def textList (texts : List String) : Value := .list (texts.map .text)

theorem answers_split (separator : Option String) (s : String) :
    Answers split separator (.text s) (textList (pieces separator s)) := by
  refine ⟨_, rfl, fun context => ?_⟩
  rw [Step.attempt, Step.run]
  rfl

theorem answers_join (separator : Option String) (texts : List String) :
    Answers join separator (textList texts)
      (.text (joinTexts (separator.getD "\n") texts)) := by
  have hdisplay : (texts.map Value.text).map Value.display = texts := by
    rw [List.map_map]
    exact List.map_id texts
  refine ⟨_, rfl, fun context => ?_⟩
  rw [Step.attempt, Step.run]
  show (⟨.ok (.text (joinTexts _ ((texts.map Value.text).map Value.display))), context⟩ : Outcome)
    = _
  rw [hdisplay]

theorem joinTexts_map_ofList (separator : String) (ps : List (List Char)) :
    joinTexts separator (ps.map String.ofList)
      = String.ofList (separator.toList.intercalate ps) := by
  have hps : (ps.map String.ofList).map String.toList = ps := by
    rw [List.map_map]
    exact (List.map_congr_left fun p _ => String.toList_ofList).trans (List.map_id ps)
  rw [joinTexts, hps]

/-! ## With a separator -/

theorem joinTexts_pieces (separator s : String) :
    joinTexts separator (pieces (some separator) s) = s := by
  have hcut : separator.toList.intercalate (splitAt separator.toList s.toList) = s.toList := by
    cases separator.toList with
    | nil => exact intercalate_splitEverywhere s.toList
    | cons c cs => exact intercalate_splitOn s.toList
  rw [pieces, joinTexts_map_ofList, hcut, String.ofList_toList]

theorem not_infix_of_mem_pieces {separator s part : String} (hne : separator ≠ "")
    (h : part ∈ pieces (some separator) s) : ¬separator.toList <:+: part.toList := by
  obtain ⟨p, hp, rfl⟩ := List.mem_map.mp h
  replace hp : p ∈ splitAt separator.toList s.toList := hp
  rw [String.toList_ofList]
  obtain ⟨c, cs, hcs⟩ := List.exists_cons_of_ne_nil (show separator.toList ≠ [] by simpa using hne)
  rw [hcs] at hp ⊢
  exact not_infix_of_mem_splitOn hp

theorem pieces_joinTexts {separator : String} {first : Char} {texts : List String}
    (hfirst : separator.toList.head? = some first) (hne : texts ≠ [])
    (h : ∀ text ∈ texts, first ∉ text.toList) :
    pieces (some separator) (joinTexts separator texts) = texts := by
  obtain ⟨rest, hrest⟩ := List.head?_eq_some_iff.mp hfirst
  have hcut : splitAt separator.toList (joinTexts separator texts).toList
      = texts.map String.toList := by
    rw [joinTexts, String.toList_ofList, hrest]
    exact splitOn_intercalate (by simpa using hne) (List.forall_mem_map.mpr h)
  rw [pieces, hcut, List.map_map]
  exact (List.map_congr_left fun s _ => String.ofList_toList).trans (List.map_id texts)

/-- **`split` and `join` with one separator are inverse to each other.** The pieces of a text are
joined to the text again, whatever the separator, and no piece has a separator in it that is not
empty. Texts that do not have the first character of the separator are cut apart again. -/
theorem split_join_inverse :
    (∀ separator s : String, ∃ parts : List String,
      Answers split (some separator) (.text s) (textList parts)
        ∧ Answers join (some separator) (textList parts) (.text s)
        ∧ (separator ≠ "" → ∀ part ∈ parts, ¬separator.toList <:+: part.toList))
    ∧ ∀ (separator : String) (first : Char) (texts : List String),
      separator.toList.head? = some first → texts ≠ [] →
      (∀ text ∈ texts, first ∉ text.toList) →
      ∃ s : String, Answers join (some separator) (textList texts) (.text s)
        ∧ Answers split (some separator) (.text s) (textList texts) := by
  constructor
  · intro separator s
    have hjoin := answers_join (some separator) (pieces (some separator) s)
    rw [Option.getD_some, joinTexts_pieces] at hjoin
    exact ⟨_, answers_split (some separator) s, hjoin, fun hne _ => not_infix_of_mem_pieces hne⟩
  · intro separator first texts hfirst hne htexts
    have hsplit := answers_split (some separator) (joinTexts separator texts)
    rw [pieces_joinTexts hfirst hne htexts] at hsplit
    exact ⟨_, answers_join (some separator) texts, hsplit⟩

/-- A separator that overlaps with itself in the text, and one next to itself between texts. -/
theorem split_join_inverse_overlap :
    (∃ parts, Answers split (some "aa") (.text "aaa") (textList parts)
      ∧ Answers join (some "aa") (textList parts) (.text "aaa")
      ∧ ∀ part ∈ parts, ¬"aa".toList <:+: part.toList)
    ∧ ∃ s, Answers join (some "aa") (textList ["b", "", "bb"]) (.text s)
      ∧ Answers split (some "aa") (.text s) (textList ["b", "", "bb"]) := by
  constructor
  · obtain ⟨parts, hsplit, hjoin, hparts⟩ := split_join_inverse.1 "aa" "aaa"
    exact ⟨parts, hsplit, hjoin, hparts (by decide)⟩
  · exact split_join_inverse.2 "aa" 'a' ["b", "", "bb"] rfl (List.cons_ne_nil _ _) (by decide)

/-! ## Without a separator -/

/-- The text goes on with a newline, or not at all. -/
def AtLineEnd (cs : List Char) : Prop := ∀ c ∈ cs.head?, c = '\n'

instance (cs : List Char) : Decidable (AtLineEnd cs) :=
  inferInstanceAs (Decidable (∀ c ∈ cs.head?, c = '\n'))

/-- The text without the carriage returns right before its newlines and at its end. Of several in a
row only the last one goes. -/
def dropReturns : List Char → List Char
  | [] => []
  | c :: cs => if c = '\r' ∧ AtLineEnd cs then dropReturns cs else c :: dropReturns cs

theorem splitLines_ne_nil (cs : List Char) : splitLines cs ≠ [] := by
  rw [splitLines, Ne, List.map_eq_nil_iff]
  exact splitChar_ne_nil _ _

theorem splitLines_newline (cs : List Char) : splitLines ('\n' :: cs) = [] :: splitLines cs := by
  rw [splitLines, splitChar, if_pos rfl]
  rfl

/-- The first line is empty if the text goes on with a newline. -/
theorem splitChar_of_atLineEnd {cs : List Char} (h : AtLineEnd cs) :
    ∃ ps, splitChar '\n' cs = [] :: ps := by
  cases cs with
  | nil => exact ⟨[], rfl⟩
  | cons c cs =>
    obtain rfl : c = '\n' := h c rfl
    exact ⟨splitChar '\n' cs, by rw [splitChar, if_pos rfl]⟩

theorem splitChar_of_not_atLineEnd {cs : List Char} (h : ¬AtLineEnd cs) :
    ∃ d p ps, splitChar '\n' cs = (d :: p) :: ps := by
  cases cs with
  | nil => exact absurd (by simp [AtLineEnd]) h
  | cons d cs =>
    have hd : d ≠ '\n' := fun hd => h (by simpa [AtLineEnd] using hd)
    obtain ⟨p, ps, hps⟩ := List.exists_cons_of_ne_nil (splitChar_ne_nil '\n' cs)
    exact ⟨d, p, ps, by rw [splitChar, if_neg hd, hps, consPiece]⟩

/-- A carriage return before a newline or at the end is in no line. -/
theorem splitLines_return {cs : List Char} (h : AtLineEnd cs) :
    splitLines ('\r' :: cs) = splitLines cs := by
  obtain ⟨ps, hps⟩ := splitChar_of_atLineEnd h
  rw [splitLines, splitLines, splitChar, if_neg (by decide), hps]
  rfl

/-- Any other character is the first one of the first line. -/
theorem splitLines_cons {c : Char} {cs : List Char} (hc : c ≠ '\n')
    (h : ¬(c = '\r' ∧ AtLineEnd cs)) : splitLines (c :: cs) = consPiece c (splitLines cs) := by
  rw [splitLines, splitLines, splitChar, if_neg hc]
  by_cases hend : AtLineEnd cs
  · obtain ⟨ps, hps⟩ := splitChar_of_atLineEnd hend
    have hreturn : c ≠ '\r' := fun hc => h ⟨hc, hend⟩
    rw [hps]
    show stripLast '\r' [c] :: _ = [c] :: _
    rw [stripLast, if_neg hreturn]
  · obtain ⟨d, p, ps, hps⟩ := splitChar_of_not_atLineEnd hend
    rw [hps]
    rfl

/-- A newline with a carriage return before it ends a line like a newline alone. -/
theorem splitLines_withReturns {cs : List Char} (h : '\r' ∉ cs) :
    splitLines (withReturns cs) = splitLines cs := by
  induction cs with
  | nil => rfl
  | cons c cs ih =>
    rw [List.mem_cons, not_or] at h
    obtain ⟨hc, hcs⟩ := h
    rw [withReturns]
    split
    · next hnewline =>
      subst hnewline
      have hend : AtLineEnd ('\n' :: withReturns cs) := by simp [AtLineEnd]
      rw [splitLines_return hend, splitLines_newline, splitLines_newline, ih hcs]
    · next hnewline =>
      have hreturn : c ≠ '\r' := Ne.symm hc
      rw [splitLines_cons hnewline (fun h => hreturn h.1),
        splitLines_cons hnewline (fun h => hreturn h.1), ih hcs]

/-- The lines with newlines between them are the text without the carriage returns of its line
endings. -/
theorem intercalate_splitLines (cs : List Char) :
    ['\n'].intercalate (splitLines cs) = dropReturns cs := by
  induction cs with
  | nil => rfl
  | cons c cs ih =>
    rw [dropReturns]
    split
    · next h =>
      obtain ⟨rfl, hend⟩ := h
      rw [splitLines_return hend, ih]
    · next h =>
      by_cases hc : c = '\n'
      · subst hc
        rw [splitLines_newline, intercalate_nil_cons _ (splitLines_ne_nil cs), ih]
        rfl
      · rw [splitLines_cons hc h, intercalate_consPiece, ih]

/-- **`split` without a separator takes off line endings of both kinds, and nothing else.** A text
without carriage returns has the same lines as the text in which each newline has one before it. The
lines of any text are joined to the text without the last carriage return before each newline and
without one at its end. -/
theorem split_default_endings :
    (∀ s : String, '\r' ∉ s.toList → ∃ lines : List String,
      Answers split none (.text s) (textList lines)
        ∧ Answers split none (.text (String.ofList (withReturns s.toList))) (textList lines))
    ∧ ∀ s : String, ∃ lines : List String,
      Answers split none (.text s) (textList lines)
        ∧ Answers join none (textList lines) (.text (String.ofList (dropReturns s.toList))) := by
  constructor
  · intro s hs
    have hlong := answers_split none (String.ofList (withReturns s.toList))
    have hlines : pieces none (String.ofList (withReturns s.toList)) = pieces none s := by
      rw [pieces, pieces, String.toList_ofList]
      show (splitLines (withReturns s.toList)).map String.ofList = _
      rw [splitLines_withReturns hs]
    rw [hlines] at hlong
    exact ⟨_, answers_split none s, hlong⟩
  · intro s
    have hjoin := answers_join none (pieces none s)
    have hjoined : joinTexts "\n" (pieces none s) = String.ofList (dropReturns s.toList) := by
      show joinTexts "\n" ((splitLines s.toList).map String.ofList) = _
      rw [joinTexts_map_ofList]
      show String.ofList (['\n'].intercalate _) = _
      rw [intercalate_splitLines]
    rw [Option.getD_none, hjoined] at hjoin
    exact ⟨_, answers_split none s, hjoin⟩

/-- A text with an empty last line, and carriage returns in a row, in a line and at the end. -/
theorem split_default_endings_mixed :
    (∃ lines, Answers split none (.text "a\nb\n") (textList lines)
      ∧ Answers split none (.text "a\r\nb\r\n") (textList lines))
    ∧ ∃ lines, Answers split none (.text "a\r\r\nb\rc\r") (textList lines)
      ∧ Answers join none (textList lines) (.text "a\r\nb\rc") := by
  have hlong : String.ofList (withReturns "a\nb\n".toList) = "a\r\nb\r\n" := by
    simp [withReturns]
  have hdropped : String.ofList (dropReturns "a\r\r\nb\rc\r".toList) = "a\r\nb\rc" := by
    simp [dropReturns, AtLineEnd]
  constructor
  · have h := split_default_endings.1 "a\nb\n" (by decide)
    rwa [hlong] at h
  · have h := split_default_endings.2 "a\r\r\nb\rc\r"
    rwa [hdropped] at h

end Command

end CheckScript
