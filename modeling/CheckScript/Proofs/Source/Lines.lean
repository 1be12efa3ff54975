import CheckScript.Proofs.Text.Blank
import CheckScript.Source.Line
import Mathlib.Data.List.Forall2

/-!
# The lines of a source

What a raw line holds depends on its leading blanks and its trimmed text only: a carriage return at
its end is a blank like any other (`lineAt_eq`). The place of a line depends on where its raw line
starts, and on nothing else before it (`linesFrom_shift`), so that the lines of a joined source are
those of the two parts, the second moved (`sourceLines_append`).

## Contents

* `Line.shift`, `Span.shift`: the same line further down in a longer source.
* `rawLines`, `unlines`: a source as the texts between its newlines, and back.
* `Writes`: raw lines that write given lines, with any blank lines between them and any blanks
  behind them. A source writes its lines (`writes_sourceLines`), and lines that were written are
  read back up to their places (`sourceLines_unlines`).
-/

namespace CheckScript

open Text

/-! ## Raw lines -/

/-- The texts between the newlines of a source. -/
def rawLines (source : String) : List (List Char) := splitChar '\n' source.toList

/-- The source with these raw lines. -/
def unlines (raws : List (List Char)) : String := String.ofList (['\n'].intercalate raws)

theorem splitChar_eq_splitOn (sep : Char) (cs : List Char) : splitChar sep cs = cs.splitOn sep := by
  induction cs with
  | nil => rfl
  | cons c cs ih =>
    obtain ⟨p, ps, hps⟩ := List.exists_cons_of_ne_nil (List.splitOn_ne_nil sep cs)
    rw [splitChar, List.splitOn_cons_eq_if_modifyHead, ih, hps]
    by_cases h : c = sep <;> simp [h, consPiece]

theorem splitChar_ne_nil (sep : Char) (cs : List Char) : splitChar sep cs ≠ [] := by
  rw [splitChar_eq_splitOn]
  exact List.splitOn_ne_nil sep cs

theorem rawLines_append (s t : String) : rawLines (s ++ "\n" ++ t) = rawLines s ++ rawLines t := by
  simp only [rawLines, splitChar_eq_splitOn, String.toList_append, List.append_assoc]
  exact List.splitOn_append_cons_self _ _

theorem rawLines_unlines {raws : List (List Char)} (hne : raws ≠ [])
    (h : ∀ raw ∈ raws, '\n' ∉ raw) : rawLines (unlines raws) = raws := by
  rw [rawLines, unlines, String.toList_ofList, splitChar_eq_splitOn]
  exact List.splitOn_intercalate '\n' h hne

theorem rawLines_of_not_mem {source : String} (h : '\n' ∉ source.toList) :
    rawLines source = [source.toList] := by
  have hraws := rawLines_unlines (List.cons_ne_nil source.toList []) (by simpa using h)
  rwa [unlines, List.intercalate_singleton, String.ofList_toList] at hraws

theorem unlines_rawLines (source : String) : unlines (rawLines source) = source := by
  rw [unlines, rawLines, splitChar_eq_splitOn, List.intercalate_splitOn, String.ofList_toList]

theorem newline_not_mem_splitChar (cs : List Char) : ∀ raw ∈ splitChar '\n' cs, '\n' ∉ raw := by
  induction cs with
  | nil => simp [splitChar]
  | cons c cs ih =>
    rw [splitChar]
    split
    · intro raw h
      rcases List.mem_cons.mp h with rfl | h
      · simp
      · exact ih raw h
    · next hc =>
      cases hp : splitChar '\n' cs with
      | nil => simp [consPiece, Ne.symm hc]
      | cons p ps =>
        rw [hp] at ih
        intro raw h
        rcases List.mem_cons.mp h with rfl | h
        · simpa [Ne.symm hc] using ih p List.mem_cons_self
        · exact ih raw (List.mem_cons_of_mem _ h)

/-- The byte behind the newline that ends a text, counted over its raw lines. -/
theorem foldl_byteLength_splitChar (cs : List Char) (offset : Nat) :
    (splitChar '\n' cs).foldl (fun at_ raw => at_ + byteLength raw + 1) offset
      = offset + byteLength cs + 1 := by
  induction cs generalizing offset with
  | nil => rfl
  | cons c cs ih =>
    rw [splitChar, byteLength_cons]
    split
    · next hc =>
      subst hc
      rw [List.foldl_cons, ih, byteLength_nil, show ('\n').utf8Size = 1 from rfl]
      omega
    · cases hp : splitChar '\n' cs with
      | nil => exact absurd hp (splitChar_ne_nil _ _)
      | cons p ps =>
        have := ih (offset + c.utf8Size)
        rw [hp, List.foldl_cons] at this
        rw [consPiece, List.foldl_cons, byteLength_cons, ← Nat.add_assoc, ← Nat.add_assoc, this]

/-! ## One raw line -/

theorem stripLast_or (c : Char) (cs : List Char) :
    stripLast c cs = cs ∨ cs = stripLast c cs ++ [c] := by
  fun_induction stripLast c cs with
  | case1 => exact .inl rfl
  | case2 => exact .inr rfl
  | case3 d h => exact .inl rfl
  | case4 d e cs ih =>
    rcases ih with ih | ih
    · exact .inl (by rw [ih])
    · exact .inr (by rw [List.cons_append, ← ih])

/-- The level of the line that stands in a raw line. -/
def rawLevel (raw : List Char) : Nat := indentLevel (raw.takeWhile isBlank)

/-- **A raw line holds a line unless it is blank; the line is its trimmed text at the level of its
leading blanks.** -/
theorem lineAt_eq (offset : Nat) (raw : List Char) :
    lineAt offset raw
      = if trim raw = [] then none
        else some ⟨String.ofList (trim raw), rawLevel raw,
          ⟨offset + byteLength (raw.takeWhile isBlank),
            offset + byteLength (raw.takeWhile isBlank) + byteLength (trim raw)⟩⟩ := by
  -- a carriage return is a blank, so that trimming takes it off anyway
  have htrim : trimEnd ((stripLast '\r' raw).dropWhile isBlank) = trim raw := by
    rcases stripLast_or '\r' raw with h | h
    · rw [h]
      rfl
    · have hcr : AllBlank ['\r'] := by simp [AllBlank, isBlank]
      have hend := trim_append_blanks allBlank_nil hcr (stripLast '\r' raw)
      rw [List.nil_append, ← h] at hend
      exact hend.symm
  by_cases hnil : trim raw = []
  · rw [if_pos hnil, lineAt, htrim, hnil]
  · have hlead : (stripLast '\r' raw).takeWhile isBlank = raw.takeWhile isBlank := by
      rcases stripLast_or '\r' raw with h | h
      · rw [h]
      · conv_rhs => rw [h]
        have hne : (stripLast '\r' raw).dropWhile isBlank ≠ [] := by
          intro hd
          rw [hd] at htrim
          exact hnil htrim.symm
        rw [List.takeWhile_append, if_neg]
        intro hlen
        have hsplit := List.takeWhile_append_dropWhile (p := isBlank) (l := stripLast '\r' raw)
        have := congrArg List.length hsplit
        rw [List.length_append, hlen] at this
        exact hne (List.length_eq_zero_iff.mp (by omega))
    rw [if_neg hnil, lineAt, htrim, hlead]
    cases htext : trim raw with
    | nil => exact absurd htext hnil
    | cons c cs => rfl

theorem lineAt_of_blank (offset : Nat) {raw : List Char} (h : AllBlank raw) :
    lineAt offset raw = none := by
  rw [lineAt_eq, if_pos (trim_eq_nil_iff.mpr h)]

/-! ## Places -/

/-- The range `by_` bytes further down. -/
def Span.shift (by_ : Nat) (span : Span) : Span := ⟨span.start + by_, span.stop + by_⟩

/-- The line `by_` bytes further down. -/
def Line.shift (by_ : Nat) (line : Line) : Line := { line with span := line.span.shift by_ }

theorem lineAt_shift (by_ offset : Nat) (raw : List Char) :
    lineAt (offset + by_) raw = (lineAt offset raw).map (Line.shift by_) := by
  rw [lineAt_eq, lineAt_eq]
  split
  · rfl
  · simp only [Option.map_some, Line.shift, Span.shift, Option.some.injEq, Line.mk.injEq,
      Span.mk.injEq, true_and]
    omega

/-- **Where the raw lines start is all that the places of the lines take from before them.** -/
theorem linesFrom_shift (by_ offset : Nat) (raws : List (List Char)) :
    linesFrom (offset + by_) raws = (linesFrom offset raws).map (Line.shift by_) := by
  induction raws generalizing offset with
  | nil => rfl
  | cons raw raws ih =>
    have hnext : offset + by_ + byteLength raw + 1 = offset + byteLength raw + 1 + by_ := by omega
    rw [linesFrom, linesFrom, hnext, ih, lineAt_shift, List.map_append]
    cases lineAt offset raw <;> rfl

/-- **The lines of a joined source are those of its first part, and those of its second part behind
the first and a newline.** -/
theorem sourceLines_append (s t : String) :
    sourceLines (s ++ "\n" ++ t)
      = sourceLines s ++ (sourceLines t).map (Line.shift (byteLength s.toList + 1)) := by
  have hraw : splitChar '\n' (s ++ "\n" ++ t).toList = rawLines s ++ rawLines t :=
    rawLines_append s t
  rw [sourceLines, hraw, linesFrom_append, rawLines, foldl_byteLength_splitChar, Nat.add_assoc,
    linesFrom_shift]
  rfl

/-! ## Written lines -/

/-- Blanks that stand within one line of a source. -/
def Padding (cs : List Char) : Prop := AllBlank cs ∧ '\n' ∉ cs

instance (cs : List Char) : Decidable (Padding cs) :=
  inferInstanceAs (Decidable (AllBlank cs ∧ '\n' ∉ cs))

/-- Raw lines that write given lines: blank ones anywhere, and each line behind blanks of its level
and before any blanks. -/
inductive Writes : List Line → List (List Char) → Prop
  | nil : Writes [] []
  | blank {lines : List Line} {raw : List Char} {raws : List (List Char)} :
    Padding raw → Writes lines raws → Writes lines (raw :: raws)
  | line {line : Line} {lead tail : List Char} {lines : List Line} {raws : List (List Char)} :
    Padding lead → indentLevel lead = line.indent → Padding tail → Writes lines raws →
    Writes (line :: lines) ((lead ++ line.text.toList ++ tail) :: raws)

/-- A text as a line has it: not empty, without blanks at its ends, and within one line. -/
structure Line.Proper (line : Line) : Prop where
  ne_nil : line.text.toList ≠ []
  trimmed : trim line.text.toList = line.text.toList
  no_newline : '\n' ∉ line.text.toList

/-- The same line up to its place in the source. -/
def Line.SameUpToSpan (l m : Line) : Prop := l.text = m.text ∧ l.indent = m.indent

/-- Where the raw lines start does not matter to anything but the places of the lines. -/
theorem sameUpToSpan_linesFrom (offset offset' : Nat) (raws : List (List Char)) :
    List.Forall₂ Line.SameUpToSpan (linesFrom offset raws) (linesFrom offset' raws) := by
  induction raws generalizing offset offset' with
  | nil => exact .nil
  | cons raw raws ih =>
    rw [linesFrom, linesFrom, lineAt_eq, lineAt_eq]
    split
    · exact ih _ _
    · exact .cons ⟨rfl, rfl⟩ (ih _ _)

/-- Blank raw lines hold no line. -/
theorem linesFrom_of_blank (offset : Nat) {raws : List (List Char)}
    (h : ∀ raw ∈ raws, AllBlank raw) : linesFrom offset raws = [] := by
  induction raws generalizing offset with
  | nil => rfl
  | cons raw raws ih =>
    obtain ⟨hraw, hraws⟩ := List.forall_mem_cons.mp h
    rw [linesFrom, lineAt_of_blank offset hraw, ih _ hraws]
    rfl

theorem writes_linesFrom (offset : Nat) {raws : List (List Char)} (h : ∀ raw ∈ raws, '\n' ∉ raw) :
    Writes (linesFrom offset raws) raws := by
  induction raws generalizing offset with
  | nil => exact .nil
  | cons raw raws ih =>
    have hraw : '\n' ∉ raw := h raw List.mem_cons_self
    have hrest := ih (offset + byteLength raw + 1) fun r hr => h r (List.mem_cons_of_mem _ hr)
    rw [linesFrom, lineAt_eq]
    split
    · next hblank => exact .blank ⟨trim_eq_nil_iff.mp hblank, hraw⟩ hrest
    · obtain ⟨tail, htail, hparts⟩ := blanks_append_trim raw
      have hlead : Padding (raw.takeWhile isBlank) :=
        ⟨allBlank_takeWhile raw, fun hc => hraw ((List.takeWhile_prefix _).subset hc)⟩
      have htail : Padding tail :=
        ⟨htail, fun hc => hraw (hparts ▸ List.mem_append_right _ hc)⟩
      have hline (span : Span) := @Writes.line ⟨String.ofList (trim raw), rawLevel raw, span⟩
        _ _ _ _ hlead rfl htail hrest
      simp only [String.toList_ofList, ← hparts] at hline
      exact hline _

/-- **A source writes its lines.** -/
theorem writes_sourceLines (source : String) : Writes (sourceLines source) (rawLines source) :=
  writes_linesFrom 0 (newline_not_mem_splitChar _)

theorem proper_of_mem_linesFrom {offset : Nat} {raws : List (List Char)} {line : Line}
    (hraws : ∀ raw ∈ raws, '\n' ∉ raw) (h : line ∈ linesFrom offset raws) : line.Proper := by
  induction raws generalizing offset with
  | nil => simp [linesFrom] at h
  | cons raw raws ih =>
    rw [linesFrom, List.mem_append] at h
    rcases h with h | h
    · rw [lineAt_eq] at h
      split at h
      · simp at h
      · next hne =>
        obtain rfl : line = _ := by simpa using h
        obtain ⟨tail, -, hparts⟩ := blanks_append_trim raw
        refine ⟨by simpa using hne, by simpa using trim_trim raw, fun hc => ?_⟩
        rw [String.toList_ofList] at hc
        refine hraws raw List.mem_cons_self ?_
        rw [hparts]
        exact List.mem_append_left _ (List.mem_append_right _ hc)
    · exact ih (fun r hr => hraws r (List.mem_cons_of_mem _ hr)) h

/-- Every line of a source has a proper text. -/
theorem proper_of_mem_sourceLines {source : String} {line : Line}
    (h : line ∈ sourceLines source) : line.Proper :=
  proper_of_mem_linesFrom (newline_not_mem_splitChar _) h

theorem linesFrom_of_writes {lines : List Line} {raws : List (List Char)} (h : Writes lines raws)
    (hproper : ∀ line ∈ lines, line.Proper) (offset : Nat) :
    List.Forall₂ Line.SameUpToSpan (linesFrom offset raws) lines := by
  induction h generalizing offset with
  | nil => exact .nil
  | blank hblank _ ih =>
    rw [linesFrom, lineAt_of_blank offset hblank.1]
    exact ih hproper _
  | @line line lead tail lines raws hlead hlevel htail _ ih =>
    have hline := hproper line List.mem_cons_self
    have htext : trim (lead ++ line.text.toList ++ tail) = line.text.toList := by
      rw [trim_append_blanks hlead.1 htail.1, hline.trimmed]
    have hrest := ih (fun l hl => hproper l (List.mem_cons_of_mem _ hl))
      (offset + byteLength (lead ++ line.text.toList ++ tail) + 1)
    rw [linesFrom, lineAt_eq, if_neg (by rw [htext]; exact hline.ne_nil), htext]
    refine .cons ⟨String.ofList_toList, ?_⟩ hrest
    show rawLevel _ = line.indent
    rw [rawLevel, takeWhile_blank_eq hlead.1 hline.ne_nil hline.trimmed, hlevel]

theorem newline_not_mem_of_writes {lines : List Line} {raws : List (List Char)}
    (h : Writes lines raws) (hproper : ∀ line ∈ lines, line.Proper) : ∀ raw ∈ raws, '\n' ∉ raw := by
  induction h with
  | nil => simp
  | blank hblank _ ih => exact List.forall_mem_cons.mpr ⟨hblank.2, ih hproper⟩
  | @line line lead tail lines raws hlead _ htail _ ih =>
    refine List.forall_mem_cons.mpr ⟨?_, ih fun l hl => hproper l (List.mem_cons_of_mem _ hl)⟩
    simp only [List.mem_append, not_or]
    exact ⟨⟨hlead.2, (hproper line List.mem_cons_self).no_newline⟩, htail.2⟩

/-- **Lines that were written are the lines of the source, up to their places.** -/
theorem sourceLines_unlines {lines : List Line} {raws : List (List Char)} (h : Writes lines raws)
    (hproper : ∀ line ∈ lines, line.Proper) :
    List.Forall₂ Line.SameUpToSpan (sourceLines (unlines raws)) lines := by
  have hlines : sourceLines (unlines raws) = linesFrom 0 raws := by
    cases raws with
    | nil => rfl
    | cons raw raws =>
      show linesFrom 0 (rawLines (unlines (raw :: raws))) = _
      rw [rawLines_unlines (List.cons_ne_nil _ _) (newline_not_mem_of_writes h hproper)]
  rw [hlines]
  exact linesFrom_of_writes h hproper 0

/-! ## Indented sources -/

/-- The source with each of its raw lines behind the spaces of `levels` levels. -/
def indentSource (levels : Nat) (source : String) : String :=
  unlines ((rawLines source).map (List.replicate (2 * levels) ' ' ++ ·))

/-- The second line is the first one, `levels` levels deeper and at any place. -/
def Line.DeeperBy (levels : Nat) (l m : Line) : Prop :=
  m.text = l.text ∧ m.indent = l.indent + levels

theorem columns_replicate_space (n : Nat) : columns (List.replicate n ' ') = n := by
  induction n with
  | zero => rfl
  | succ n ih =>
    rw [List.replicate_succ, columns, ih, show columnWidth ' ' = 1 from rfl, Nat.add_comm]

theorem rawLevel_indent (levels : Nat) (raw : List Char) :
    rawLevel (List.replicate (2 * levels) ' ' ++ raw) = rawLevel raw + levels := by
  rw [rawLevel, rawLevel, List.takeWhile_append_of_pos (allBlank_replicate_space _), indentLevel,
    indentLevel, columns_append, columns_replicate_space]
  omega

theorem linesFrom_indent (levels : Nat) (raws : List (List Char)) (offset offset' : Nat) :
    List.Forall₂ (Line.DeeperBy levels) (linesFrom offset raws)
      (linesFrom offset' (raws.map (List.replicate (2 * levels) ' ' ++ ·))) := by
  induction raws generalizing offset offset' with
  | nil => exact .nil
  | cons raw raws ih =>
    have htrim : trim (List.replicate (2 * levels) ' ' ++ raw) = trim raw := by
      have h := trim_append_blanks (allBlank_replicate_space (2 * levels)) allBlank_nil raw
      rwa [List.append_nil] at h
    rw [List.map_cons, linesFrom, linesFrom, lineAt_eq, lineAt_eq, htrim]
    split
    · exact ih _ _
    · exact .cons ⟨rfl, rawLevel_indent levels raw⟩ (ih _ _)

/-- **Indenting a source makes its lines deeper and changes nothing else about them.** -/
theorem sourceLines_indentSource (levels : Nat) (source : String) :
    List.Forall₂ (Line.DeeperBy levels) (sourceLines source)
      (sourceLines (indentSource levels source)) := by
  have hne : (rawLines source).map (List.replicate (2 * levels) ' ' ++ ·) ≠ [] := by
    rw [rawLines, splitChar_eq_splitOn]
    simp
  have hraws : rawLines (indentSource levels source)
      = (rawLines source).map (List.replicate (2 * levels) ' ' ++ ·) := by
    refine rawLines_unlines hne (List.forall_mem_map.mpr fun raw hraw => ?_)
    simp [newline_not_mem_splitChar source.toList raw hraw]
  show List.Forall₂ _ _ (linesFrom 0 (rawLines (indentSource levels source)))
  rw [hraws]
  exact linesFrom_indent levels (rawLines source) 0 0

end CheckScript
