import CheckScript.Proofs.Source.Alike
import Mathlib.Logic.Relation

/-!
# Sources that differ in their layout

Two sources have one layout up to what scripts see of it if their lines have the same words, and
their levels are ordered alike (`LayoutAlike`). Of a raw line only its words and, if it has any, its
level matter to that (`layout_linesFrom`).

`Relayout` lists the changes that nobody should have to care about: line endings, blank lines,
blanks at the end of a line or between its words, tabs for two blanks, and the width of a step of
indentation. None of them leaves that relation (`layoutAlike_of_relayout`).
-/

namespace CheckScript

open Text

/-- The lines of the sources have the same words, and their levels are ordered alike. -/
structure LayoutAlike (s t : String) : Prop where
  words : (sourceLines s).map Line.words = (sourceLines t).map Line.words
  levels : LevelsAlike (sourceLines s) (sourceLines t)

theorem map_words_eq_iff {ls ms : List Line} :
    ls.map Line.words = ms.map Line.words
      ↔ List.Forall₂ (fun l m => Line.words l = Line.words m) ls ms := by
  rw [← List.forall₂_eq_eq_eq, List.forall₂_map_left_iff, List.forall₂_map_right_iff]

theorem levelsAlike_iff {ls ms : List Line} (hlength : ls.length = ms.length) :
    LevelsAlike ls ms ↔ ∀ (i j : Nat) (hi : i < ls.length) (hj : j < ls.length),
      compare ls[i].indent ls[j].indent = compare ms[i].indent ms[j].indent := by
  have hzip : (ls.zip ms).length = ls.length := by rw [List.length_zip, ← hlength, Nat.min_self]
  constructor
  · intro h i j hi hj
    have hmem : ∀ k (hk : k < ls.length), (ls[k], ms[k]) ∈ ls.zip ms := by
      intro k hk
      rw [← List.getElem_zip]
      exact List.getElem_mem (hzip ▸ hk)
    exact h _ (hmem i hi) _ (hmem j hj)
  · intro h p hp q hq
    obtain ⟨i, hi, rfl⟩ := List.getElem_of_mem hp
    obtain ⟨j, hj, rfl⟩ := List.getElem_of_mem hq
    rw [List.getElem_zip, List.getElem_zip]
    exact h i j (hzip ▸ hi) (hzip ▸ hj)

namespace LayoutAlike

variable {s t u : String}

theorem length_eq (h : LayoutAlike s t) : (sourceLines s).length = (sourceLines t).length := by
  simpa using congrArg List.length h.words

theorem refl (s : String) : LayoutAlike s s :=
  ⟨rfl, (levelsAlike_iff rfl).mpr fun _ _ _ _ => rfl⟩

theorem symm (h : LayoutAlike s t) : LayoutAlike t s := by
  have hlevels := (levelsAlike_iff h.length_eq).mp h.levels
  refine ⟨h.words.symm, (levelsAlike_iff h.length_eq.symm).mpr fun i j hi hj => ?_⟩
  exact (hlevels i j (h.length_eq ▸ hi) (h.length_eq ▸ hj)).symm

theorem trans (h : LayoutAlike s t) (h' : LayoutAlike t u) : LayoutAlike s u := by
  have hlevels := (levelsAlike_iff h.length_eq).mp h.levels
  have hlevels' := (levelsAlike_iff h'.length_eq).mp h'.levels
  have hlength := h.length_eq.trans h'.length_eq
  refine ⟨h.words.trans h'.words, (levelsAlike_iff hlength).mpr fun i j hi hj => ?_⟩
  exact (hlevels i j hi hj).trans (hlevels' i j (h.length_eq ▸ hi) (h.length_eq ▸ hj))

end LayoutAlike

/-! ## What matters of a raw line -/

/-- The words of a raw line and its level, unless it is blank. -/
def rawLayout (raw : List Char) : Option (List (List Char) × Nat) :=
  if words raw = [] then none else some (words raw, rawLevel raw)

/-- **Of a source the words and the levels of its raw lines matter, and nothing else.** -/
theorem layout_linesFrom (offset : Nat) (raws : List (List Char)) :
    (linesFrom offset raws).map (fun line => (line.words, line.indent))
      = raws.filterMap rawLayout := by
  induction raws generalizing offset with
  | nil => rfl
  | cons raw raws ih =>
    rw [linesFrom, List.map_append, ih, List.filterMap_cons, lineAt_eq, rawLayout]
    by_cases hblank : AllBlank raw
    · rw [if_pos (trim_eq_nil_iff.mpr hblank), if_pos (words_eq_nil_iff.mpr hblank)]
      rfl
    · rw [if_neg (trim_eq_nil_iff.not.mpr hblank), if_neg (words_eq_nil_iff.not.mpr hblank)]
      simp [Line.words, words_trim]

/-- Sources are alike in layout if the words of their raw lines are the same and their levels both
grow with the same numbers. -/
theorem layoutAlike_of_forall₂ {f g : Nat → Nat} (hf : StrictMono f) (hg : StrictMono g)
    {s t : String}
    (h : List.Forall₂ (fun p q => p.1 = q.1 ∧ ∃ n, p.2 = f n ∧ q.2 = g n)
      ((rawLines s).filterMap rawLayout) ((rawLines t).filterMap rawLayout)) :
    LayoutAlike s t := by
  rw [← layout_linesFrom 0, ← layout_linesFrom 0, List.forall₂_map_left_iff,
    List.forall₂_map_right_iff] at h
  exact ⟨map_words_eq_iff.mpr (h.imp fun _ _ hlm => hlm.1),
    levelsAlike_of_strictMono hf hg (h.imp fun _ _ hlm => hlm.2)⟩

theorem layoutAlike_of_eq {s t : String}
    (h : (rawLines s).filterMap rawLayout = (rawLines t).filterMap rawLayout) :
    LayoutAlike s t := by
  refine layoutAlike_of_forall₂ strictMono_id strictMono_id ?_
  rw [h]
  exact List.forall₂_same.mpr fun p _ => ⟨rfl, p.2, rfl, rfl⟩

/-! ## Changes of one raw line -/

/-- A change of one raw line that does not touch its words or its level. -/
inductive RawChange : List Char → List Char → Prop
  /-- Blanks at the end; a carriage return is one. -/
  | trailing (raw : List Char) {tail : List Char} : AllBlank tail → RawChange raw (raw ++ tail)
  /-- A tab in the indentation for two blanks. -/
  | tab {lead : List Char} (raw : List Char) :
    AllBlank lead → RawChange (lead ++ '\t' :: raw) (lead ++ ' ' :: ' ' :: raw)
  /-- Blanks between words for other ones. -/
  | between {left gap gap' : List Char} (right : List Char) :
    ¬AllBlank left → AllBlank gap → gap ≠ [] → AllBlank gap' → gap' ≠ [] →
    RawChange (left ++ gap ++ right) (left ++ gap' ++ right)

theorem rawLevel_append_of_not_blank {raw : List Char} (h : ¬AllBlank raw) (tail : List Char) :
    rawLevel (raw ++ tail) = rawLevel raw := by
  have hne : (raw.takeWhile isBlank).length ≠ raw.length := by
    intro hlen
    refine h ?_
    rw [← (List.takeWhile_prefix isBlank).eq_of_length hlen]
    exact allBlank_takeWhile raw
  rw [rawLevel, List.takeWhile_append, if_neg hne, rawLevel]

theorem words_append_gap {gap : List Char} (h : AllBlank gap) (hne : gap ≠ [])
    (left right : List Char) : words (left ++ gap ++ right) = words left ++ words right := by
  obtain ⟨b, gap, rfl⟩ := List.exists_cons_of_ne_nil hne
  rw [List.append_assoc, List.cons_append, words_append_cons_of_blank (h b List.mem_cons_self),
    words_blanks_append fun c hc => h c (List.mem_cons_of_mem _ hc)]

theorem rawLayout_eq {raw raw' : List Char} (hwords : words raw = words raw')
    (hlevel : ¬AllBlank raw → rawLevel raw = rawLevel raw') : rawLayout raw = rawLayout raw' := by
  rw [rawLayout, rawLayout, ← hwords]
  split
  · rfl
  · next hne => rw [hlevel (words_eq_nil_iff.not.mp hne)]

/-- **Such a change keeps the words of the line and its level.** -/
theorem rawLayout_of_rawChange {raw raw' : List Char} (h : RawChange raw raw') :
    rawLayout raw = rawLayout raw' := by
  cases h with
  | trailing raw htail =>
    exact rawLayout_eq (words_append_blanks raw htail).symm
      fun hraw => (rawLevel_append_of_not_blank hraw _).symm
  | @tab lead raw hlead =>
    have htab : AllBlank (lead ++ ['\t']) := hlead.append (by simp [AllBlank, isBlank])
    have hspaces : AllBlank (lead ++ [' ', ' ']) := hlead.append (allBlank_replicate_space 2)
    have hl : lead ++ '\t' :: raw = (lead ++ ['\t']) ++ raw := by simp
    have hr : lead ++ ' ' :: ' ' :: raw = (lead ++ [' ', ' ']) ++ raw := by simp
    rw [hl, hr]
    refine rawLayout_eq ?_ fun _ => ?_
    · rw [words_blanks_append htab, words_blanks_append hspaces]
    · rw [rawLevel, rawLevel, List.takeWhile_append_of_pos htab,
        List.takeWhile_append_of_pos hspaces, indentLevel, indentLevel]
      simp only [columns_append]
      rfl
  | between right hleft hgap hne hgap' hne' =>
    refine rawLayout_eq ?_ fun _ => ?_
    · rw [words_append_gap hgap hne, words_append_gap hgap' hne']
    · rw [List.append_assoc, List.append_assoc, rawLevel_append_of_not_blank hleft,
        rawLevel_append_of_not_blank hleft]

/-! ## Line endings -/

/-- The text with a carriage return before each newline. -/
def withReturns : List Char → List Char
  | [] => []
  | c :: cs => if c = '\n' then '\r' :: '\n' :: withReturns cs else c :: withReturns cs

theorem splitChar_withReturns (cs : List Char) :
    List.Forall₂ (fun raw raw' => ∃ tail, AllBlank tail ∧ raw' = raw ++ tail)
      (splitChar '\n' cs) (splitChar '\n' (withReturns cs)) := by
  induction cs with
  | nil => exact .cons ⟨[], allBlank_nil, rfl⟩ .nil
  | cons c cs ih =>
    rw [withReturns]
    by_cases hc : c = '\n'
    · rw [if_pos hc, splitChar, if_pos hc, splitChar, if_neg (by decide), splitChar, if_pos rfl]
      exact .cons ⟨['\r'], by simp [AllBlank, isBlank], rfl⟩ ih
    · rw [if_neg hc, splitChar, splitChar, if_neg hc, if_neg hc]
      generalize splitChar '\n' cs = raws, splitChar '\n' (withReturns cs) = raws' at ih
      cases ih with
      | nil => exact .cons ⟨[], allBlank_nil, rfl⟩ .nil
      | cons hraw hraws =>
        obtain ⟨tail, htail, rfl⟩ := hraw
        exact .cons ⟨tail, htail, rfl⟩ hraws

theorem filterMap_rawLayout_eq {raws raws' : List (List Char)}
    (h : List.Forall₂ (fun raw raw' => rawLayout raw = rawLayout raw') raws raws') :
    raws.filterMap rawLayout = raws'.filterMap rawLayout := by
  induction h with
  | nil => rfl
  | cons hraw _ ih => rw [List.filterMap_cons, List.filterMap_cons, hraw, ih]

/-! ## Steps of indentation -/

/-- The same line as deep in a source with steps of `size` columns as in one with steps of `size'`
columns. -/
inductive Reindented (size size' : Nat) : List Char → List Char → Prop
  | line {lead lead' core : List Char} (depth : Nat) :
    AllBlank lead → AllBlank lead' → (∀ c ∈ core.head?, isBlank c = false) →
    columns lead = size * depth → columns lead' = size' * depth →
    Reindented size size' (lead ++ core) (lead' ++ core)

theorem strictMono_level {size : Nat} (h : 2 ≤ size) :
    StrictMono fun depth => size * depth / 2 := by
  refine strictMono_nat_of_lt_succ fun depth => ?_
  rw [Nat.mul_succ]
  omega

theorem rawLevel_lead {lead core : List Char} (hlead : AllBlank lead)
    (hcore : ∀ c ∈ core.head?, isBlank c = false) : rawLevel (lead ++ core) = columns lead / 2 := by
  have hnone : core.takeWhile isBlank = [] := by
    cases core with
    | nil => rfl
    | cons c core => exact List.takeWhile_cons_of_neg (by simp [hcore c rfl])
  rw [rawLevel, List.takeWhile_append_of_pos hlead, hnone, List.append_nil, indentLevel]

theorem forall₂_rawLayout_of_reindented {size size' : Nat} {raws raws' : List (List Char)}
    (h : List.Forall₂ (Reindented size size') raws raws') :
    List.Forall₂ (fun p q => p.1 = q.1 ∧ ∃ n, p.2 = size * n / 2 ∧ q.2 = size' * n / 2)
      (raws.filterMap rawLayout) (raws'.filterMap rawLayout) := by
  induction h with
  | nil => exact .nil
  | cons hraw _ ih =>
    obtain ⟨depth, hlead, hlead', hcore, hcolumns, hcolumns'⟩ := hraw
    rw [List.filterMap_cons, List.filterMap_cons, rawLayout, rawLayout, words_blanks_append hlead,
      words_blanks_append hlead', rawLevel_lead hlead hcore, rawLevel_lead hlead' hcore, hcolumns,
      hcolumns']
    split
    · next hnone =>
      split at hnone
      · next hnil => simpa [hnil] using ih
      · cases hnone
    · next hsome =>
      split at hsome
      · cases hsome
      · next hne =>
        rw [if_neg hne]
        cases hsome
        exact .cons ⟨rfl, depth, rfl, rfl⟩ ih

/-! ## Changes of a source -/

/-- A change of the layout of a source that does not matter. -/
inductive Relayout (s t : String) : Prop
  /-- A carriage return and a newline at the end of each line for a newline. -/
  | endings : t = String.ofList (withReturns s.toList) → Relayout s t
  /-- One more blank line. -/
  | blankLine {before after : List (List Char)} {raw : List Char} :
    rawLines s = before ++ after → rawLines t = before ++ raw :: after → AllBlank raw →
    Relayout s t
  /-- One line changed. -/
  | line {before after : List (List Char)} {raw raw' : List Char} :
    rawLines s = before ++ raw :: after → rawLines t = before ++ raw' :: after →
    RawChange raw raw' → Relayout s t
  /-- Another step of indentation, of one level or more. -/
  | step {size size' : Nat} :
    2 ≤ size → 2 ≤ size' → List.Forall₂ (Reindented size size') (rawLines s) (rawLines t) →
    Relayout s t

/-- **No such change touches what scripts see of a layout.** -/
theorem layoutAlike_of_relayout {s t : String} (h : Relayout s t) : LayoutAlike s t := by
  cases h with
  | endings ht =>
    refine layoutAlike_of_eq (filterMap_rawLayout_eq ?_)
    have hraws := splitChar_withReturns s.toList
    rw [ht, rawLines, rawLines, String.toList_ofList]
    refine hraws.imp fun raw raw' hraw => ?_
    obtain ⟨tail, htail, rfl⟩ := hraw
    exact rawLayout_of_rawChange (.trailing raw htail)
  | blankLine hs ht hblank =>
    refine layoutAlike_of_eq ?_
    rw [hs, ht, List.filterMap_append, List.filterMap_append, List.filterMap_cons, rawLayout,
      if_pos (words_eq_nil_iff.mpr hblank)]
  | line hs ht hraw =>
    refine layoutAlike_of_eq ?_
    rw [hs, ht, List.filterMap_append, List.filterMap_append, List.filterMap_cons,
      List.filterMap_cons, rawLayout_of_rawChange hraw]
  | step hsize hsize' hraws =>
    exact layoutAlike_of_forall₂ (strictMono_level hsize) (strictMono_level hsize')
      (forall₂_rawLayout_of_reindented hraws)

/-- Any number of such changes, made or taken back, do not touch it either. -/
theorem layoutAlike_of_eqvGen {s t : String} (h : Relation.EqvGen Relayout s t) :
    LayoutAlike s t := by
  induction h with
  | rel s t hst => exact layoutAlike_of_relayout hst
  | refl s => exact .refl s
  | symm s t _ ih => exact ih.symm
  | trans s t u _ _ hst htu => exact hst.trans htu

end CheckScript
