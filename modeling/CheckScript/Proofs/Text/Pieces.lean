import CheckScript.Text.Split
import Mathlib.Data.List.Infix

/-!
# Texts and their pieces

Cutting and joining are inverse to each other, with one condition in each direction.

## Main statements

* `intercalate_splitOn`: the pieces of a text, with the separator between them, are the text.
* `not_infix_of_mem_splitOn`: no piece has the separator in it. The search takes the first
  occurrence from the left, so this holds even if the separator overlaps with itself.
* `splitOn_intercalate`: texts without the first character of the separator are the pieces of what
  they are joined to.
* `breakOn?_eq_some_iff`: a text is broken at the first place where the separator stands.
-/

namespace CheckScript.Text

variable {s : Char} {ss : List Char}

/-! ## Prefixes -/

theorem isSome_stripPrefix?_of_prefix {pre cs : List Char} (h : pre <+: cs) :
    (stripPrefix? pre cs).isSome := by
  obtain ⟨rest, rfl⟩ := h
  rw [stripPrefix?_append]
  rfl

theorem stripPrefix?_cons_of_ne {c : Char} (h : c ≠ s) (cs : List Char) :
    stripPrefix? (s :: ss) (c :: cs) = none := by
  rw [stripPrefix?, if_neg (Ne.symm h)]

/-! ## One character of a text -/

theorem consPiece_ne_nil (c : Char) (ps : List (List Char)) : consPiece c ps ≠ [] := by
  cases ps with
  | nil => exact List.cons_ne_nil _ _
  | cons p ps => exact List.cons_ne_nil _ _

theorem intercalate_consPiece (sep : List Char) (c : Char) (ps : List (List Char)) :
    sep.intercalate (consPiece c ps) = c :: sep.intercalate ps := by
  cases ps with
  | nil => simp [consPiece]
  | cons p ps =>
    cases ps with
    | nil => simp [consPiece]
    | cons q qs => simp [consPiece, List.intercalate_cons_cons]

theorem intercalate_nil_cons (sep : List Char) {ps : List (List Char)} (h : ps ≠ []) :
    sep.intercalate ([] :: ps) = sep ++ sep.intercalate ps := by
  obtain ⟨p, ps, rfl⟩ := List.exists_cons_of_ne_nil h
  rw [List.intercalate_cons_cons, List.nil_append]

theorem splitOn_of_stripPrefix? {c : Char} {cs rest : List Char}
    (h : stripPrefix? (s :: ss) (c :: cs) = some rest) :
    splitOn s ss (c :: cs) = [] :: splitOn s ss rest := by
  rw [splitOn]
  split
  · next rest' h' =>
    rw [h] at h'
    cases h'
    rfl
  · next h' =>
    rw [h] at h'
    cases h'

theorem splitOn_of_stripPrefix?_eq_none {c : Char} {cs : List Char}
    (h : stripPrefix? (s :: ss) (c :: cs) = none) :
    splitOn s ss (c :: cs) = consPiece c (splitOn s ss cs) := by
  rw [splitOn]
  split
  · next rest' h' =>
    rw [h] at h'
    cases h'
  · rfl

/-! ## Joined again -/

theorem splitOn_ne_nil (cs : List Char) : splitOn s ss cs ≠ [] := by
  fun_induction splitOn s ss cs with
  | case1 => exact List.cons_ne_nil _ _
  | case2 => exact List.cons_ne_nil _ _
  | case3 => exact consPiece_ne_nil _ _

/-- **The pieces of a text with the separator between them are the text.** -/
theorem intercalate_splitOn (cs : List Char) : (s :: ss).intercalate (splitOn s ss cs) = cs := by
  fun_induction splitOn s ss cs with
  | case1 => simp
  | case2 c cs rest h ih =>
    rw [intercalate_nil_cons _ (splitOn_ne_nil rest), ih, eq_append_of_stripPrefix? h]
  | case3 c cs h ih => rw [intercalate_consPiece, ih]

theorem nil_intercalate (ps : List (List Char)) : [].intercalate ps = ps.flatten := by
  induction ps with
  | nil => rfl
  | cons p ps ih =>
    cases ps with
    | nil => simp
    | cons q qs =>
      rw [List.intercalate_cons_cons, ih, List.append_nil]
      exact List.flatten_cons.symm

theorem intercalate_splitEverywhere (cs : List Char) :
    [].intercalate (splitEverywhere cs) = cs := by
  rw [nil_intercalate, splitEverywhere, List.flatten_cons, List.nil_append, List.flatten_append,
    ← List.flatMap_def, List.flatMap_singleton', List.flatten_singleton, List.append_nil]

/-! ## The separator is in no piece -/

theorem prefix_of_splitOn_eq_cons {cs p : List Char} {ps : List (List Char)}
    (h : splitOn s ss cs = p :: ps) : p <+: cs := by
  fun_induction splitOn s ss cs generalizing p ps with
  | case1 =>
    obtain ⟨rfl, -⟩ := List.cons.inj h
    exact List.nil_prefix
  | case2 =>
    obtain ⟨rfl, -⟩ := List.cons.inj h
    exact List.nil_prefix
  | case3 c cs _ ih =>
    obtain ⟨q, qs, hqs⟩ := List.exists_cons_of_ne_nil (splitOn_ne_nil cs)
    rw [hqs, consPiece] at h
    obtain ⟨rfl, -⟩ := List.cons.inj h
    exact (List.prefix_cons_inj c).mpr (ih hqs)

/-- **No piece has the separator in it.** -/
theorem not_infix_of_mem_splitOn {cs p : List Char} (hp : p ∈ splitOn s ss cs) :
    ¬s :: ss <:+: p := by
  fun_induction splitOn s ss cs generalizing p with
  | case1 =>
    rw [List.mem_singleton.mp hp]
    simp
  | case2 c cs rest _ ih =>
    rcases List.mem_cons.mp hp with rfl | hp
    · simp
    · exact ih hp
  | case3 c cs h ih =>
    obtain ⟨q, qs, hqs⟩ := List.exists_cons_of_ne_nil (splitOn_ne_nil cs)
    rw [hqs] at hp ih
    rcases List.mem_cons.mp hp with rfl | hp
    · -- an occurrence at the start of the piece would have been one at the start of the text
      intro hinfix
      rcases List.infix_cons_iff.mp hinfix with hstart | hinfix
      · have hq : c :: q <+: c :: cs :=
          (List.prefix_cons_inj c).mpr (prefix_of_splitOn_eq_cons hqs)
        have hsome := isSome_stripPrefix?_of_prefix (hstart.trans hq)
        rw [h] at hsome
        cases hsome
      · exact ih List.mem_cons_self hinfix
    · exact ih (List.mem_cons_of_mem _ hp)

/-! ## Cut again -/

theorem splitOn_append_of_not_mem {p : List Char} (hp : s ∉ p) (rest : List Char) :
    splitOn s ss (p ++ ((s :: ss) ++ rest)) = p :: splitOn s ss rest := by
  induction p with
  | nil => exact splitOn_of_stripPrefix? (stripPrefix?_append (s :: ss) rest)
  | cons c p ih =>
    rw [List.mem_cons, not_or] at hp
    obtain ⟨hc, hp⟩ := hp
    rw [List.cons_append,
      splitOn_of_stripPrefix?_eq_none (stripPrefix?_cons_of_ne (Ne.symm hc) _), ih hp, consPiece]

theorem splitOn_of_not_mem {p : List Char} (hp : s ∉ p) : splitOn s ss p = [p] := by
  induction p with
  | nil => rw [splitOn]
  | cons c p ih =>
    rw [List.mem_cons, not_or] at hp
    obtain ⟨hc, hp⟩ := hp
    rw [splitOn_of_stripPrefix?_eq_none (stripPrefix?_cons_of_ne (Ne.symm hc) _), ih hp, consPiece]

/-- **Texts without the first character of the separator are found again.** -/
theorem splitOn_intercalate {ps : List (List Char)} (hne : ps ≠ []) (h : ∀ p ∈ ps, s ∉ p) :
    splitOn s ss ((s :: ss).intercalate ps) = ps := by
  induction ps with
  | nil => exact absurd rfl hne
  | cons p ps ih =>
    obtain ⟨hp, hps⟩ := List.forall_mem_cons.mp h
    cases ps with
    | nil => rw [List.intercalate_singleton, splitOn_of_not_mem hp]
    | cons q qs =>
      rw [List.intercalate_cons_cons, List.append_assoc, splitOn_append_of_not_mem hp,
        ih (List.cons_ne_nil _ _) hps]

/-! ## The first occurrence -/

/-- `sep` stands in the text between these parts, and nowhere further to the left. -/
structure FirstOccurrence (sep cs before after : List Char) : Prop where
  cut : cs = before ++ (sep ++ after)
  first : ∀ p q, cs = p ++ (sep ++ q) → before.length ≤ p.length

theorem firstOccurrence_of_breakOn? {sep cs before after : List Char}
    (h : breakOn? sep cs = some (before, after)) : FirstOccurrence sep cs before after := by
  induction cs generalizing before with
  | nil =>
    rw [breakOn?] at h
    split at h
    · next hsep =>
      cases h
      rw [List.isEmpty_iff.mp hsep]
      exact ⟨rfl, fun p q _ => Nat.zero_le _⟩
    · cases h
  | cons c cs ih =>
    rw [breakOn?] at h
    split at h
    · next rest hstart =>
      cases h
      refine ⟨?_, fun p q _ => Nat.zero_le _⟩
      rw [List.nil_append, eq_append_of_stripPrefix? hstart]
    · next hstart =>
      rw [Option.map_eq_some_iff] at h
      obtain ⟨⟨before', after'⟩, hbreak, heq⟩ := h
      cases heq
      obtain ⟨rfl, hfirst⟩ := ih hbreak
      refine ⟨rfl, fun p q hpq => ?_⟩
      cases p with
      | nil =>
        rw [hpq, List.nil_append, stripPrefix?_append] at hstart
        cases hstart
      | cons d p =>
        obtain ⟨rfl, htail⟩ := List.cons.inj hpq
        exact Nat.succ_le_succ (hfirst p q htail)

theorem not_infix_of_breakOn? {sep cs : List Char} (h : breakOn? sep cs = none) :
    ¬sep <:+: cs := by
  induction cs with
  | nil =>
    intro hinfix
    rw [List.infix_nil.mp hinfix] at h
    cases h
  | cons c cs ih =>
    rw [breakOn?] at h
    split at h
    · cases h
    · next hstart =>
      rw [Option.map_eq_none_iff] at h
      intro hinfix
      rcases List.infix_cons_iff.mp hinfix with hprefix | hinfix
      · have hsome := isSome_stripPrefix?_of_prefix hprefix
        rw [hstart] at hsome
        cases hsome
      · exact ih h hinfix

/-- **A text is broken where the separator stands for the first time.** -/
theorem breakOn?_eq_some_iff {sep cs before after : List Char} :
    breakOn? sep cs = some (before, after) ↔ FirstOccurrence sep cs before after := by
  refine ⟨firstOccurrence_of_breakOn?, fun ⟨hcut, hfirst⟩ => ?_⟩
  cases h : breakOn? sep cs with
  | none => exact absurd ⟨before, after, by rw [hcut, List.append_assoc]⟩ (not_infix_of_breakOn? h)
  | some parts =>
    obtain ⟨hcut', hfirst'⟩ := firstOccurrence_of_breakOn? h
    -- two first places are the same place
    have hlength : before.length = parts.1.length :=
      Nat.le_antisymm (hfirst _ _ hcut') (hfirst' _ _ hcut)
    obtain ⟨hbefore, hafter⟩ := List.append_inj (hcut.symm.trans hcut') hlength
    rw [hbefore, List.append_cancel_left hafter]

/-- A separator whose first character does not come again in it stands first behind any text that
does not have it. -/
theorem firstOccurrence_of_not_infix (hs : s ∉ ss) {before : List Char}
    (h : ¬s :: ss <:+: before) (after : List Char) :
    FirstOccurrence (s :: ss) (before ++ (s :: ss ++ after)) before after := by
  refine ⟨rfl, fun p q hpq => ?_⟩
  by_contra hlt
  -- an earlier one ends within `before`, or reaches to the `s` behind it
  rcases List.append_eq_append_iff.mp hpq with ⟨part, rfl, -⟩ | ⟨part, rfl, hpart⟩
  · simp at hlt
  · cases part with
    | nil => simp at hlt
    | cons c part =>
      obtain ⟨rfl, htail⟩ := List.cons.inj hpart
      rcases List.append_eq_append_iff.mp htail with ⟨more, rfl, -⟩ | ⟨more, rfl, hmore⟩
      · exact h ⟨p, more, by simp⟩
      · cases more with
        | nil => exact h ⟨p, [], by simp⟩
        | cons d more =>
          obtain ⟨rfl, -⟩ := List.cons.inj hmore
          simp at hs

end CheckScript.Text
