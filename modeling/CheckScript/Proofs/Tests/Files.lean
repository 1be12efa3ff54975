import CheckScript.Proofs.Text.Pieces
import CheckScript.Tests.File
import Mathlib

/-!
# How test files are laid out

A test file is cut at its delimiters. `TestFile.Layout` says where: the parts of the text in order,
each with what makes it the part that it is. A text is a test file iff it has a layout
(`ofText_eq_ok_iff`), and writing a header and a script between delimiters gives one
(`exists_layout`).

## Main statement

* `laid_out_files_read_back`: a file that is written comes back, and what is read was laid out.
-/

namespace CheckScript

open Text

namespace TestFile

/-! ## The parts of a file -/

/-- A newline, with a carriage return before it or without. -/
inductive IsLineEnding : List Char → Prop
  | short : IsLineEnding ['\n']
  | long : IsLineEnding ['\r', '\n']

theorem stripLineEnding?_eq_some_iff {cs rest : List Char} :
    stripLineEnding? cs = some rest ↔ ∃ ending, IsLineEnding ending ∧ cs = ending ++ rest := by
  constructor
  · intro h
    unfold stripLineEnding? at h
    split at h
    · cases h
      exact ⟨_, .short, rfl⟩
    · cases h
      exact ⟨_, .long, rfl⟩
    · cases h
  · rintro ⟨ending, hending, rfl⟩
    cases hending with
    | short => rfl
    | long => rfl

/-- What is dropped from the front ends at the first character that stays. -/
theorem dropWhile_append_of_head {p : Char → Bool} {front cs : List Char}
    (hfront : ∀ c ∈ front, p c = true) (hcs : ∀ c ∈ cs.head?, p c = false) :
    (front ++ cs).dropWhile p = cs := by
  rw [List.dropWhile_append_of_pos hfront]
  cases cs with
  | nil => rfl
  | cons c cs => exact List.dropWhile_cons_of_neg (by simp [hcs c rfl])

theorem dropMarks_append {marks cs : List Char} (hmarks : ∀ c ∈ marks, c = '\uFEFF')
    (hcs : cs.head? ≠ some '\uFEFF') : dropMarks (marks ++ cs) = cs := by
  refine dropWhile_append_of_head (by simpa using hmarks) fun c hc => ?_
  rw [beq_eq_false_iff_ne]
  rintro rfl
  exact hcs hc

theorem exists_marks (cs : List Char) :
    ∃ marks, (∀ c ∈ marks, c = '\uFEFF') ∧ cs = marks ++ dropMarks cs :=
  ⟨cs.takeWhile (· == '\uFEFF'), fun c hc => by simpa using List.mem_takeWhile_imp hc,
    List.takeWhile_append_dropWhile.symm⟩

/-- **The carriage returns at the end are taken off, all of them and nothing else.** -/
theorem dropReturns_eq_iff {cs header : List Char} :
    dropReturns cs = header ↔ ∃ returns, (∀ c ∈ returns, c = '\r') ∧ cs = header ++ returns
      ∧ header.getLast? ≠ some '\r' := by
  constructor
  · rintro rfl
    refine ⟨cs.rtakeWhile (· == '\r'), fun c hc => ?_, ?_, fun hlast => ?_⟩
    · simpa using List.mem_rtakeWhile_imp hc
    · exact (List.rdropWhile_append_rtakeWhile (p := (· == '\r')) (l := cs)).symm
    · have hne : dropReturns cs ≠ [] := by
        intro hnil
        rw [hnil] at hlast
        cases hlast
      rw [List.getLast?_eq_some_getLast hne] at hlast
      exact List.rdropWhile_last_not (· == '\r') cs hne (beq_iff_eq.mpr (Option.some.inj hlast))
  · rintro ⟨returns, hreturns, rfl, hlast⟩
    have hdrop : (returns.reverse ++ header.reverse).dropWhile (· == '\r') = header.reverse := by
      refine dropWhile_append_of_head (by simpa using hreturns) fun c hc => ?_
      rw [beq_eq_false_iff_ne]
      rintro rfl
      exact hlast (by simpa using hc)
    rw [dropReturns, List.reverse_append, hdrop, List.reverse_reverse]

/-- The second text is the first one without the line ending at its start, if it has one there. -/
inductive SkipsLineEnding : List Char → List Char → Prop
  | skipped {ending cs : List Char} : IsLineEnding ending → SkipsLineEnding (ending ++ cs) cs
  | kept {cs : List Char} :
    (∀ ending after, IsLineEnding ending → cs ≠ ending ++ after) → SkipsLineEnding cs cs

theorem getD_stripLineEnding?_eq_iff {rest source : List Char} :
    (stripLineEnding? rest).getD rest = source ↔ SkipsLineEnding rest source := by
  constructor
  · rintro rfl
    cases h : stripLineEnding? rest with
    | none =>
      refine .kept fun ending after hending heq => ?_
      rw [stripLineEnding?_eq_some_iff.mpr ⟨ending, hending, heq⟩] at h
      cases h
    | some after =>
      obtain ⟨ending, hending, rfl⟩ := stripLineEnding?_eq_some_iff.mp h
      exact .skipped hending
  · intro h
    cases h with
    | skipped hending =>
      rw [stripLineEnding?_eq_some_iff.mpr ⟨_, hending, rfl⟩]
      rfl
    | kept hnone =>
      cases h : stripLineEnding? rest with
      | none => rfl
      | some after =>
        obtain ⟨ending, hending, heq⟩ := stripLineEnding?_eq_some_iff.mp h
        exact absurd heq (hnone ending after hending)

/-! ## Layouts -/

/-- The text lays out a header and a script in these parts. -/
structure Layout (cs header source marks opening body returns rest : List Char) : Prop where
  /-- Behind byte-order marks stands the first delimiter, with a line ending. -/
  opened : cs = marks ++ (delimiter ++ (opening ++ body))
  only_marks : ∀ c ∈ marks, c = '\uFEFF'
  line_ending : IsLineEnding opening
  /-- The next delimiter is the first one behind a newline. -/
  closed : FirstOccurrence ('\n' :: delimiter) body (header ++ returns) rest
  /-- The carriage returns in front of that newline are not part of the header. -/
  only_returns : ∀ c ∈ returns, c = '\r'
  no_return : header.getLast? ≠ some '\r'
  /-- The script is the rest, without a line ending at its start. -/
  source : SkipsLineEnding rest source

/-- **A text is cut into a header and a script iff it lays them out.** -/
theorem split_eq_ok_iff {cs header source : List Char} :
    split cs = .ok (header, source)
      ↔ ∃ marks opening body returns rest,
        Layout cs header source marks opening body returns rest := by
  unfold split
  constructor
  · intro h
    split at h
    · cases h
    · next body hbody =>
      split at h
      · cases h
      · next front rest hbreak =>
        obtain ⟨behind, hdelimiter, hending⟩ := Option.bind_eq_some_iff.mp hbody
        obtain ⟨opening, hopening, rfl⟩ := stripLineEnding?_eq_some_iff.mp hending
        obtain ⟨marks, hmarks, hcs⟩ := exists_marks cs
        rw [eq_append_of_stripPrefix? hdelimiter] at hcs
        obtain ⟨hheader, hsource⟩ := Prod.mk.inj (Except.ok.inj h)
        obtain ⟨returns, hreturns, rfl, hlast⟩ := dropReturns_eq_iff.mp hheader
        exact ⟨marks, opening, body, returns, rest, {
          opened := hcs
          only_marks := hmarks
          line_ending := hopening
          closed := breakOn?_eq_some_iff.mp hbreak
          only_returns := hreturns
          no_return := hlast
          source := getD_stripLineEnding?_eq_iff.mp hsource }⟩
  · rintro ⟨marks, opening, body, returns, rest, h⟩
    have hbody : (stripPrefix? delimiter (dropMarks cs)).bind stripLineEnding? = some body := by
      rw [h.opened, dropMarks_append h.only_marks (by simp [delimiter]), stripPrefix?_append,
        Option.bind_some]
      exact stripLineEnding?_eq_some_iff.mpr ⟨opening, h.line_ending, rfl⟩
    have hheader : dropReturns (header ++ returns) = header :=
      dropReturns_eq_iff.mpr ⟨returns, h.only_returns, rfl, h.no_return⟩
    rw [hbody]
    simp only [breakOn?_eq_some_iff.mpr h.closed, hheader,
      getD_stripLineEnding?_eq_iff.mpr h.source]

/-- **A text is a test file iff it lays out a header that can be read, and a script.** -/
theorem ofText_eq_ok_iff {content : String} {file : TestFile} :
    ofText content = .ok file
      ↔ ∃ header marks opening body returns rest,
        Layout content.toList header file.source.toList marks opening body returns rest
          ∧ TestHeader.ofText (String.ofList header) = .ok file.header := by
  obtain ⟨header, source⟩ := file
  have hsplit : ofText content = .ok ⟨header, source⟩
      ↔ ∃ cs, split content.toList = .ok (cs, source.toList)
        ∧ TestHeader.ofText (String.ofList cs) = .ok header := by
    unfold ofText
    cases split content.toList with
    | error e => simp [bind, Except.bind]
    | ok parts =>
      obtain ⟨cs, rest⟩ := parts
      cases hread : TestHeader.ofText (String.ofList cs) with
      | error e => simp [bind, Except.bind, Except.mapError, hread]
      | ok read =>
        have hsource : String.ofList rest = source ↔ rest = source.toList := by
          rw [← String.toList_inj, String.toList_ofList]
        simp [bind, Except.bind, Except.mapError, pure, Except.pure, hread, hsource, and_comm]
  rw [hsplit]
  simp only [split_eq_ok_iff, exists_and_right]

/-! ## Files that are written -/

theorem not_infix_append_return {header : List Char} (h : ¬ '\n' :: delimiter <:+: header) :
    ¬ '\n' :: delimiter <:+: header ++ ['\r'] := by
  intro hinfix
  rcases List.infix_concat_iff.mp hinfix with hsuffix | hinfix
  · have hlast := hsuffix.getLast (List.cons_ne_nil _ _)
    simp [delimiter] at hlast
  · exact h hinfix

/-- **A header and a script are laid out by the delimiters between them**, with line endings of
either kind. -/
theorem exists_layout {cs header source marks ending : List Char}
    (hcs : cs = marks ++ (delimiter ++ (ending ++ (header ++ (ending ++ (delimiter ++ (ending
      ++ source)))))))
    (hmarks : ∀ c ∈ marks, c = '\uFEFF') (hending : IsLineEnding ending)
    (hclosed : ¬ '\n' :: delimiter <:+: header) (hlast : header.getLast? ≠ some '\r') :
    ∃ body returns rest, Layout cs header source marks ending body returns rest := by
  have hsource : SkipsLineEnding (ending ++ source) source := .skipped hending
  -- a long line ending leaves its carriage return in front of the newline of the delimiter
  obtain ⟨returns, hreturns, hbody⟩ : ∃ returns, (∀ c ∈ returns, c = '\r')
      ∧ FirstOccurrence ('\n' :: delimiter)
        (header ++ (ending ++ (delimiter ++ (ending ++ source)))) (header ++ returns)
        (ending ++ source) := by
    have hnewline : '\n' ∉ delimiter := by decide
    cases hending with
    | short =>
      have h := firstOccurrence_of_not_infix hnewline hclosed (['\n'] ++ source)
      exact ⟨[], by simp, by simpa using h⟩
    | long =>
      have h := firstOccurrence_of_not_infix hnewline (not_infix_append_return hclosed)
        (['\r', '\n'] ++ source)
      exact ⟨['\r'], by simp, by simpa using h⟩
  exact ⟨_, returns, ending ++ source, {
    opened := hcs
    only_marks := hmarks
    line_ending := hending
    closed := hbody
    only_returns := hreturns
    no_return := hlast
    source := hsource }⟩

/-- **What is laid out between delimiters is what is read.** Behind any number of byte-order marks,
a header and a script that are written with a delimiter before and behind the header come back as
they are, with line endings of either kind, if the header has no delimiter at the start of a later
line and does not end with a carriage return. A text is a test file only if it has such a layout: it
opens with a delimiter and a line ending, its header is what stands before the first delimiter
behind a newline, without carriage returns at its end, and its script is what follows, less one line
ending at most. -/
theorem laid_out_files_read_back :
    (∀ (marks : Nat) (ending f s : String) (header : TestHeader), IsLineEnding ending.toList →
      ¬ "\n---".toList <:+: f.toList → f.toList.getLast? ≠ some '\r' →
      TestHeader.ofText f = .ok header →
      ofText (String.ofList (List.replicate marks '\uFEFF') ++ "---" ++ ending ++ f ++ ending
        ++ "---" ++ ending ++ s) = .ok ⟨header, s⟩)
    ∧ ∀ (content : String) (file : TestFile), ofText content = .ok file
      ↔ ∃ header marks opening body returns rest,
        Layout content.toList header file.source.toList marks opening body returns rest
          ∧ TestHeader.ofText (String.ofList header) = .ok file.header := by
  refine ⟨fun marks ending f s header hending hclosed hlast hheader => ?_,
    fun content file => ofText_eq_ok_iff⟩
  have hmarks : ∀ c ∈ List.replicate marks '\uFEFF', c = '\uFEFF' :=
    fun c hc => List.eq_of_mem_replicate hc
  have hcs : (String.ofList (List.replicate marks '\uFEFF') ++ "---" ++ ending ++ f ++ ending
      ++ "---" ++ ending ++ s).toList
        = List.replicate marks '\uFEFF' ++ (delimiter ++ (ending.toList ++ (f.toList
          ++ (ending.toList ++ (delimiter ++ (ending.toList ++ s.toList)))))) := by
    simp [delimiter]
  obtain ⟨body, returns, rest, hlayout⟩ := exists_layout hcs hmarks hending hclosed hlast
  refine ofText_eq_ok_iff.mpr ⟨f.toList, _, _, body, returns, rest, hlayout, ?_⟩
  rw [String.ofList_toList, hheader]

/-- A header that expects an error. -/
def expectingHeader : TestHeader := ⟨none, none, none, some "---", false⟩

/-- A header with an empty last line and a delimiter inside a line, and a script that starts with a
line ending and a delimiter. -/
theorem laid_out_files_read_back_delimiters :
    ofText "\uFEFF\uFEFF---\r\nexpect_error = '---'\r\n\n\r\n---\r\n\r\n---\necho"
      = .ok ⟨expectingHeader, "\r\n---\necho"⟩ := by
  have hheader : TestHeader.ofText "expect_error = '---'\r\n\n" = .ok expectingHeader := by cbv
  exact laid_out_files_read_back.1 2 "\r\n" "expect_error = '---'\r\n\n"
    "\r\n---\necho" expectingHeader .long (by decide) (by decide) hheader

end TestFile

end CheckScript
