import CheckScript.Proofs.Source.Lines

/-!
# Where the lines of a source stand

The span of a line cuts its text out of the source (`cuts_of_mem_sourceLines`), and so does the span
of its command (`cuts_commandSpan`). To cut a text out means that it stands between the two ends of
the span, counted in bytes; then these bytes of the source are those of the text
(`bytes_of_cuts`).

The spans of the lines are in order and do not touch, since a newline stands between two lines
(`pairwise_span_sourceLines`).
-/

namespace CheckScript

open Text

/-! ## Bytes -/

/-- The bytes of a source in a range. -/
def Span.bytes (span : Span) (source : String) : ByteArray :=
  source.toUTF8.extract span.start span.stop

/-- The text stands in the source between the two ends of the span. -/
def Span.Cuts (span : Span) (source text : List Char) : Prop :=
  ∃ before after, source = before ++ text ++ after ∧ span.start = byteLength before
    ∧ span.stop = byteLength before + byteLength text

theorem size_utf8Encode (cs : List Char) : cs.utf8Encode.size = byteLength cs := by
  induction cs with
  | nil => rfl
  | cons c cs ih =>
    rw [List.utf8Encode_cons, ByteArray.size_append, ih, List.utf8Encode_singleton,
      List.size_toByteArray, String.length_utf8EncodeChar, byteLength_cons]

theorem extract_middle (a b c : ByteArray) :
    (a ++ b ++ c).extract a.size (a.size + b.size) = b := by
  have hfront : a.extract a.size (a.size + b.size) = ByteArray.empty :=
    ByteArray.extract_eq_empty_iff.mpr (Nat.min_le_right _ _)
  rw [ByteArray.append_assoc, ByteArray.extract_append, hfront, ByteArray.empty_append,
    Nat.sub_self, Nat.add_sub_cancel_left]
  exact ByteArray.extract_append_eq_left rfl

/-- **The bytes in a span are those of the text that it cuts out.** -/
theorem bytes_of_cuts {span : Span} {source text : String}
    (h : span.Cuts source.toList text.toList) : span.bytes source = text.toUTF8 := by
  obtain ⟨before, after, hsource, hstart, hstop⟩ := h
  have hbytes : source.toUTF8 = before.utf8Encode ++ text.toUTF8 ++ after.utf8Encode := by
    show source.toByteArray = before.utf8Encode ++ text.toByteArray ++ after.utf8Encode
    rw [← String.utf8Encode_toList, hsource, List.utf8Encode_append, List.utf8Encode_append,
      String.utf8Encode_toList]
  have htext : text.toUTF8.size = byteLength text.toList := by
    rw [← size_utf8Encode, String.utf8Encode_toList]
    rfl
  rw [Span.bytes, hbytes, hstart, hstop, ← htext, ← size_utf8Encode]
  exact extract_middle _ _ _

/-- What stands at the front of a text that is cut out is cut out too. -/
theorem Span.Cuts.front {span : Span} {source text start : List Char} (h : span.Cuts source text)
    (hstart : start <+: text) :
    Span.Cuts ⟨span.start, span.start + byteLength start⟩ source start := by
  obtain ⟨before, after, rfl, hplace, -⟩ := h
  obtain ⟨rest, rfl⟩ := hstart
  exact ⟨before, rest ++ after, by simp, hplace, by rw [hplace]⟩

/-! ## Lines -/

/-- A line stands in the raw line that starts at `offset`, behind its leading blanks. -/
theorem cuts_of_mem_lineAt {before raw after : List Char} {line : Line}
    (h : line ∈ lineAt (byteLength before) raw) :
    line.span.Cuts (before ++ raw ++ after) line.text.toList := by
  rw [lineAt_eq] at h
  split at h
  · cases h
  · obtain rfl := Option.some.inj h
    obtain ⟨tail, -, hparts⟩ := blanks_append_trim raw
    refine ⟨before ++ raw.takeWhile isBlank, tail ++ after, ?_, ?_, ?_⟩
    · rw [String.toList_ofList]
      conv_lhs => rw [hparts]
      simp only [List.append_assoc]
    · rw [byteLength_append]
    · rw [byteLength_append, String.toList_ofList]

theorem cuts_of_mem_linesFrom {before : List Char} {raws : List (List Char)} {line : Line}
    (h : line ∈ linesFrom (byteLength before) raws) :
    line.span.Cuts (before ++ ['\n'].intercalate raws) line.text.toList := by
  induction raws generalizing before with
  | nil => cases h
  | cons raw rest ih =>
    rw [linesFrom, List.mem_append, Option.mem_toList] at h
    cases rest with
    | nil =>
      rw [List.intercalate_singleton]
      rcases h with h | h
      · have hcuts := @cuts_of_mem_lineAt before raw [] line h
        rwa [List.append_nil] at hcuts
      · cases h
    | cons next rest =>
      rw [List.intercalate_cons_cons]
      rcases h with h | h
      · have hcuts := @cuts_of_mem_lineAt before raw
          (['\n'] ++ ['\n'].intercalate (next :: rest)) line h
        simpa only [List.append_assoc] using hcuts
      · -- the next raw line starts behind this one and its newline
        have hoffset : byteLength (before ++ raw ++ ['\n'])
            = byteLength before + byteLength raw + 1 := by
          simp only [byteLength_append, byteLength_cons, byteLength_nil]
          rfl
        rw [← hoffset] at h
        simpa only [List.append_assoc] using ih h

/-- **The span of a line cuts its text out of the source.** -/
theorem cuts_of_mem_sourceLines {source : String} {line : Line} (h : line ∈ sourceLines source) :
    line.span.Cuts source.toList line.text.toList := by
  have hcuts := @cuts_of_mem_linesFrom [] _ line h
  rw [List.nil_append, splitChar_eq_splitOn, List.intercalate_splitOn] at hcuts
  exact hcuts

theorem span_of_mem_lineAt {offset : Nat} {raw : List Char} {line : Line}
    (h : line ∈ lineAt offset raw) :
    offset ≤ line.span.start ∧ line.span.stop ≤ offset + byteLength raw := by
  rw [lineAt_eq] at h
  split at h
  · cases h
  · obtain rfl := Option.some.inj h
    obtain ⟨tail, -, hparts⟩ := blanks_append_trim raw
    have hlength := congrArg byteLength hparts
    rw [byteLength_append, byteLength_append] at hlength
    simp only
    omega

theorem offset_le_of_mem_linesFrom {offset : Nat} {raws : List (List Char)} {line : Line}
    (h : line ∈ linesFrom offset raws) : offset ≤ line.span.start := by
  induction raws generalizing offset with
  | nil => cases h
  | cons raw rest ih =>
    rw [linesFrom, List.mem_append, Option.mem_toList] at h
    rcases h with h | h
    · exact (span_of_mem_lineAt h).1
    · have := ih h
      omega

theorem pairwise_span_linesFrom (offset : Nat) (raws : List (List Char)) :
    (linesFrom offset raws).Pairwise fun l m => l.span.stop < m.span.start := by
  induction raws generalizing offset with
  | nil => exact .nil
  | cons raw rest ih =>
    rw [linesFrom, List.pairwise_append]
    refine ⟨?_, ih _, fun l hl m hm => ?_⟩
    · cases lineAt offset raw with
      | none => exact .nil
      | some line => exact List.pairwise_singleton _ _
    · have hstop := (span_of_mem_lineAt (Option.mem_toList.mp hl)).2
      have hstart := offset_le_of_mem_linesFrom hm
      omega

/-- **The lines of a source stand in order, with a newline between any two of them.** -/
theorem pairwise_span_sourceLines (source : String) :
    (sourceLines source).Pairwise fun l m => l.span.stop < m.span.start :=
  pairwise_span_linesFrom 0 _

/-! ## Commands -/

/-- The command stands at the front of a text that does not start with a blank. -/
theorem Line.command_prefix {line : Line}
    (h : ∀ c ∈ line.text.toList.head?, isBlank c = false) :
    line.command.toList <+: line.text.toList := by
  cases htext : line.text.toList with
  | nil =>
    rw [command, words, htext, words_nil]
    exact List.nil_prefix
  | cons c cs =>
    have hstart : startsWord (c :: cs) = true := by simpa [startsWord, htext] using h
    obtain ⟨w, ws, hwords⟩ := List.exists_cons_of_ne_nil (words_ne_nil_of_startsWord hstart)
    rw [command, words, htext, hwords, List.headD_cons, String.toList_ofList]
    exact prefix_of_words_eq_cons hstart hwords

theorem Line.Proper.starts_with_command {line : Line} (h : line.Proper) :
    line.command.toList ≠ [] ∧ line.command.toList <+: line.text.toList := by
  obtain ⟨c, cs, htext⟩ := List.exists_cons_of_ne_nil h.ne_nil
  have hc : isBlank c = false := isBlank_head_of_trimmed (htext ▸ h.trimmed)
  refine ⟨?_, command_prefix (by simpa [htext] using hc)⟩
  obtain ⟨w, ws, hwords⟩ := words_cons_of_not_blank hc cs
  rw [command, words, htext, hwords, List.headD_cons, String.toList_ofList]
  exact List.cons_ne_nil _ _

/-- The span of a command cuts it out of the source. -/
theorem cuts_commandSpan {source : String} {line : Line} (h : line ∈ sourceLines source) :
    line.commandSpan.Cuts source.toList line.command.toList :=
  (cuts_of_mem_sourceLines h).front (proper_of_mem_sourceLines h).starts_with_command.2

theorem byteLength_pos {cs : List Char} (h : cs ≠ []) : 0 < byteLength cs := by
  obtain ⟨c, cs, rfl⟩ := List.exists_cons_of_ne_nil h
  have := c.utf8Size_pos
  rw [byteLength_cons]
  omega

theorem byteLength_mono {start cs : List Char} (h : start <+: cs) :
    byteLength start ≤ byteLength cs := by
  obtain ⟨rest, rfl⟩ := h
  rw [byteLength_append]
  exact Nat.le_add_right _ _

end CheckScript
