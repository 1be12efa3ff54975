import CheckScript.Text.Blank
import Mathlib.Data.List.DropRight
import Mathlib.Data.List.TakeWhile

/-!
# Trimming and words

A text is its leading blanks, its trimmed part and its trailing blanks. Everything that is said here
follows from two equations: `trim` does not see blanks at the ends (`trim_append_blanks`), and a
blank cuts the words of a text in two (`words_append_cons_of_blank`).

## Main statements

* `blanks_append_trim`: a text is put together again from the three parts.
* `takeWhile_blank_eq`: what stands before the trimmed part are the leading blanks.
* `words_trim`: trimming keeps the words.
-/

namespace CheckScript.Text

/-! ## Trimming -/

/-- Every character is blank. -/
def AllBlank (cs : List Char) : Prop := ∀ c ∈ cs, isBlank c = true

instance (cs : List Char) : Decidable (AllBlank cs) :=
  List.decidableBAll (fun c => isBlank c = true) cs

theorem allBlank_nil : AllBlank [] := fun _ h => absurd h List.not_mem_nil

theorem AllBlank.append {cs ds : List Char} (hc : AllBlank cs) (hd : AllBlank ds) :
    AllBlank (cs ++ ds) := by
  intro c h
  rcases List.mem_append.mp h with h | h
  · exact hc c h
  · exact hd c h

theorem allBlank_replicate_space (n : Nat) : AllBlank (List.replicate n ' ') := by
  intro c h
  rw [List.eq_of_mem_replicate h]
  decide

theorem allBlank_takeWhile (cs : List Char) : AllBlank (cs.takeWhile isBlank) :=
  fun _ h => List.mem_takeWhile_imp h

theorem trimEnd_append_blanks (cs : List Char) {tail : List Char} (h : AllBlank tail) :
    trimEnd (cs ++ tail) = trimEnd cs := by
  unfold trimEnd
  rw [List.reverse_append, List.dropWhile_append_of_pos fun c hc => h c (List.mem_reverse.mp hc)]

theorem trim_eq_nil_iff {cs : List Char} : trim cs = [] ↔ AllBlank cs := by
  constructor
  · intro h
    have hend : AllBlank (trimStart cs) := List.rdropWhile_eq_nil_iff.mp h
    rw [← List.takeWhile_append_dropWhile (p := isBlank) (l := cs)]
    exact (allBlank_takeWhile cs).append hend
  · intro h
    have hstart : trimStart cs = [] := List.dropWhile_eq_nil_iff.mpr h
    rw [trim, hstart]
    rfl

/-- **Blanks at the ends do not matter to trimming.** -/
theorem trim_append_blanks {lead tail : List Char} (hl : AllBlank lead) (ht : AllBlank tail)
    (cs : List Char) : trim (lead ++ cs ++ tail) = trim cs := by
  have hlead : trimStart (lead ++ cs ++ tail) = trimStart (cs ++ tail) := by
    rw [List.append_assoc]
    exact List.dropWhile_append_of_pos hl
  rw [trim, hlead]
  by_cases hblank : AllBlank cs
  · rw [trim_eq_nil_iff.mpr hblank]
    exact trim_eq_nil_iff.mpr (hblank.append ht)
  · have hcs : cs.dropWhile isBlank ≠ [] := fun h => hblank (List.dropWhile_eq_nil_iff.mp h)
    rw [trimStart, List.dropWhile_append, if_neg (by simpa using hcs), trimEnd_append_blanks _ ht]
    rfl

/-- **A text is its leading blanks, its trimmed part and trailing blanks.** -/
theorem blanks_append_trim (cs : List Char) :
    ∃ tail, AllBlank tail ∧ cs = cs.takeWhile isBlank ++ trim cs ++ tail := by
  refine ⟨(trimStart cs).rtakeWhile isBlank, fun c h => List.mem_rtakeWhile_imp h, ?_⟩
  have hend : trim cs ++ (trimStart cs).rtakeWhile isBlank = trimStart cs :=
    List.rdropWhile_append_rtakeWhile
  rw [List.append_assoc, hend]
  exact List.takeWhile_append_dropWhile.symm

theorem trim_trim (cs : List Char) : trim (trim cs) = trim cs := by
  obtain ⟨tail, ht, h⟩ := blanks_append_trim cs
  have h2 := trim_append_blanks (allBlank_takeWhile cs) ht (trim cs)
  rw [← h] at h2
  exact h2.symm

/-- A trimmed text that is not empty starts with a character that is not blank. -/
theorem isBlank_head_of_trimmed {c : Char} {cs : List Char} (h : trim (c :: cs) = c :: cs) :
    isBlank c = false := by
  by_contra hc
  have hblank : trimStart (c :: cs) = trimStart cs :=
    trimStart_cons_of_blank (by simpa using hc) cs
  have hlen : (trim (c :: cs)).length ≤ cs.length := by
    rw [trim, hblank]
    exact (List.rdropWhile_prefix isBlank _).length_le.trans (List.dropWhile_sublist _).length_le
  rw [h, List.length_cons] at hlen
  omega

/-- **The blanks before a trimmed text are the leading blanks.** -/
theorem takeWhile_blank_eq {lead core : List Char} (hl : AllBlank lead) (hne : core ≠ [])
    (hcore : trim core = core) (tail : List Char) :
    (lead ++ core ++ tail).takeWhile isBlank = lead := by
  cases core with
  | nil => exact absurd rfl hne
  | cons c core =>
    have hc := isBlank_head_of_trimmed hcore
    rw [List.append_assoc, List.takeWhile_append_of_pos hl, List.cons_append,
      List.takeWhile_cons_of_neg (by simp [hc]), List.append_nil]

/-! ## Words -/

theorem words_ne_nil_of_startsWord {cs : List Char} (h : startsWord cs = true) :
    words cs ≠ [] := by
  cases cs with
  | nil => simp [startsWord] at h
  | cons c cs =>
    rw [words, if_neg (by simpa [startsWord] using h)]
    split
    · cases words cs <;> simp [consWord]
    · simp

/-- A text without blanks is one word. -/
theorem words_of_not_blank {w : List Char} (hne : w ≠ []) (h : ∀ c ∈ w, isBlank c = false) :
    words w = [w] := by
  induction w with
  | nil => exact absurd rfl hne
  | cons c cs ih =>
    obtain ⟨hc, hcs⟩ := List.forall_mem_cons.mp h
    rw [words, if_neg (by simp [hc])]
    cases cs with
    | nil => rfl
    | cons d ds =>
      have hstart : startsWord (d :: ds) = true := by simp [startsWord, hcs d List.mem_cons_self]
      rw [if_pos hstart, ih (List.cons_ne_nil _ _) hcs]
      rfl

/-- A text that starts inside a word starts with its first word. -/
theorem prefix_of_words_eq_cons {cs w : List Char} {ws : List (List Char)}
    (h : startsWord cs = true) (hwords : words cs = w :: ws) : w <+: cs := by
  induction cs generalizing w ws with
  | nil => simp [startsWord] at h
  | cons c cs ih =>
    rw [words, if_neg (by simpa [startsWord] using h)] at hwords
    split at hwords
    · next hstart =>
      obtain ⟨v, vs, hvs⟩ := List.exists_cons_of_ne_nil (words_ne_nil_of_startsWord hstart)
      rw [hvs] at hwords
      obtain ⟨rfl, rfl⟩ := List.cons.inj hwords
      exact (List.prefix_cons_inj c).mpr (ih hstart hvs)
    · obtain ⟨rfl, rfl⟩ := List.cons.inj hwords
      exact (List.prefix_cons_inj c).mpr (List.nil_prefix)

/-- **A blank cuts the words of a text in two.** -/
theorem words_append_cons_of_blank {b : Char} (hb : isBlank b = true) (cs ds : List Char) :
    words (cs ++ b :: ds) = words cs ++ words ds := by
  induction cs with
  | nil => rw [List.nil_append, words_cons_of_blank hb, words_nil, List.nil_append]
  | cons c cs ih =>
    have hstart : startsWord (cs ++ b :: ds) = startsWord cs := by
      cases cs with
      | nil => simp [startsWord, hb]
      | cons d cs => rfl
    rw [List.cons_append, words, words, ih, hstart]
    split
    · rfl
    · split
      · next hw =>
        obtain ⟨w, ws, hws⟩ := List.exists_cons_of_ne_nil (words_ne_nil_of_startsWord hw)
        rw [hws]
        rfl
      · rfl

theorem words_blanks_append {lead : List Char} (h : AllBlank lead) (cs : List Char) :
    words (lead ++ cs) = words cs := by
  induction lead with
  | nil => rfl
  | cons c lead ih =>
    rw [List.cons_append, words_cons_of_blank (h c List.mem_cons_self)]
    exact ih fun d hd => h d (List.mem_cons_of_mem _ hd)

theorem words_append_blanks (cs : List Char) {tail : List Char} (h : AllBlank tail) :
    words (cs ++ tail) = words cs := by
  cases tail with
  | nil => rw [List.append_nil]
  | cons b tail =>
    have hnil : words tail = [] := by
      have := words_blanks_append (fun d hd => h d (List.mem_cons_of_mem _ hd)) []
      rwa [List.append_nil] at this
    rw [words_append_cons_of_blank (h b List.mem_cons_self), hnil, List.append_nil]

/-- **Trimming keeps the words.** -/
theorem words_trim (cs : List Char) : words (trim cs) = words cs := by
  obtain ⟨tail, ht, h⟩ := blanks_append_trim cs
  conv_rhs => rw [h]
  rw [words_append_blanks _ ht, words_blanks_append (allBlank_takeWhile cs)]

/-- The first word starts with the first character, if that is not blank. -/
theorem words_cons_of_not_blank {c : Char} (h : isBlank c = false) (cs : List Char) :
    ∃ w ws, words (c :: cs) = (c :: w) :: ws := by
  rw [words, if_neg (by simp [h])]
  split
  · cases words cs with
    | nil => exact ⟨[], [], rfl⟩
    | cons w ws => exact ⟨w, ws, rfl⟩
  · exact ⟨[], words cs, rfl⟩

theorem words_eq_nil_iff {cs : List Char} : words cs = [] ↔ AllBlank cs := by
  constructor
  · intro h
    rw [← trim_eq_nil_iff]
    rw [← words_trim] at h
    cases hc : trim cs with
    | nil => rfl
    | cons c rest =>
      have htrimmed : trim (c :: rest) = c :: rest := by rw [← hc, trim_trim]
      obtain ⟨w, ws, hws⟩ := words_cons_of_not_blank (isBlank_head_of_trimmed htrimmed) rest
      rw [hc, hws] at h
      cases h
  · intro h
    have := words_append_blanks [] h
    rwa [List.nil_append] at this

end CheckScript.Text
