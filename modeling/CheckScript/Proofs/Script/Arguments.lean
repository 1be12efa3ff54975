import CheckScript.Proofs.Json.Quoted
import CheckScript.Proofs.Script.Compiling
import CheckScript.Proofs.Source.Places
import CheckScript.Proofs.Source.Words

/-!
# What reaches a command

A command gets the words of its line behind its name. Whatever text a command that decodes its
argument is to get, there is a way to write it without blanks (`CharProtected`), and then nothing
else arrives. A command that does not decode gets what is written.

A line that is only a name passes no argument, and an argument is never empty.

## Main statement

* `arguments_arrive`: all of this.
-/

namespace CheckScript

open Text

/-! ## Texts written without blanks -/

/-- The hexadecimal digit, of either case, has the value. -/
def IsHexDigit (d : Char) (n : Nat) : Prop :=
  n < 16 ∧ (d = hexDigit n ∨ d = (hexDigit n).toUpper)

/-- How a character is written to reach a command that decodes its argument: quotation marks and
reverse solidi behind a reverse solidus, blanks and controls by four digits, others as they are. -/
inductive CharProtected (c : Char) : List Char → Prop
  | mark : c = '"' ∨ c = '\\' → CharProtected c ['\\', c]
  | code {p q r s : Char} {i j k l : Nat} :
    isBlank c = true ∨ c.toNat < 0x20 → IsHexDigit p i → IsHexDigit q j → IsHexDigit r k →
    IsHexDigit s l → c.toNat = ((i * 16 + j) * 16 + k) * 16 + l →
    CharProtected c ['\\', 'u', p, q, r, s]
  | plain : c ≠ '"' → c ≠ '\\' → isBlank c = false → 0x20 ≤ c.toNat → CharProtected c [c]

/-- The second text is the first one, written so that it reaches a command. -/
abbrev Protected : List Char → List Char → Prop := Json.Spells CharProtected

theorem hexValue_of_isHexDigit {d : Char} {n : Nat} (h : IsHexDigit d n) : hexValue d = some n := by
  have hupper : ∀ m ∈ List.range 16, hexValue (hexDigit m).toUpper = some m := by decide
  obtain ⟨hn, rfl | rfl⟩ := h
  · exact hexValue_hexDigit hn
  · exact hupper n (List.mem_range.mpr hn)

theorem not_blank_of_isHexDigit {d : Char} {n : Nat} (h : IsHexDigit d n) : isBlank d = false := by
  have hall : ∀ m ∈ List.range 16,
      isBlank (hexDigit m) = false ∧ isBlank (hexDigit m).toUpper = false := by decide
  obtain ⟨hn, rfl | rfl⟩ := h
  · exact (hall n (List.mem_range.mpr hn)).1
  · exact (hall n (List.mem_range.mpr hn)).2

theorem lt_of_isBlank {c : Char} (h : isBlank c = true) : c.toNat < 0x10000 := by
  simp only [isBlank, Bool.or_eq_true, Bool.and_eq_true, decide_eq_true_eq, beq_iff_eq] at h
  omega

namespace CharProtected

variable {c : Char} {w : List Char}

theorem spelling (h : CharProtected c w) : Json.CharSpelling c w := by
  cases h with
  | mark h =>
    rcases h with rfl | rfl
    · exact .letter rfl
    · exact .letter rfl
  | code _ hp hq hr hs hvalue =>
    refine .code ?_
    simp only [Json.hexNumber, hexValue_of_isHexDigit hp, hexValue_of_isHexDigit hq,
      hexValue_of_isHexDigit hr, hexValue_of_isHexDigit hs, Option.bind_eq_bind, Option.bind_some,
      hvalue]
  | plain hquote hescape _ hcontrol => exact .plain hquote hescape hcontrol

theorem not_blank (h : CharProtected c w) : ∀ d ∈ w, isBlank d = false := by
  have hescape : isBlank '\\' = false := by decide
  cases h with
  | mark h =>
    have hc : isBlank c = false := by rcases h with rfl | rfl <;> decide
    simp [hescape, hc]
  | code _ hp hq hr hs _ =>
    simp [hescape, show isBlank 'u' = false by decide, not_blank_of_isHexDigit hp,
      not_blank_of_isHexDigit hq, not_blank_of_isHexDigit hr, not_blank_of_isHexDigit hs]
  | plain _ _ hblank _ => simp [hblank]

theorem ne_nil (h : CharProtected c w) : w ≠ [] := by
  cases h <;> simp

/-- Every character can be written so. -/
theorem exists_protected (c : Char) : ∃ w, CharProtected c w := by
  by_cases hmark : c = '"' ∨ c = '\\'
  · exact ⟨_, .mark hmark⟩
  · by_cases hcode : isBlank c = true ∨ c.toNat < 0x20
    · have hlt : c.toNat < 0x10000 := by
        rcases hcode with hblank | hcontrol
        · exact lt_of_isBlank hblank
        · omega
      exact ⟨_, .code (i := c.toNat / 4096) (j := c.toNat / 256 % 16) (k := c.toNat / 16 % 16)
        (l := c.toNat % 16) hcode ⟨by omega, .inl rfl⟩ ⟨by omega, .inl rfl⟩ ⟨by omega, .inl rfl⟩
        ⟨by omega, .inl rfl⟩ (by omega)⟩
    · simp only [not_or, Nat.not_lt, Bool.not_eq_true] at hmark hcode
      exact ⟨_, .plain hmark.1 hmark.2 hcode.1 hcode.2⟩

end CharProtected

theorem unescape_of_protected {s written : String} (h : Protected s.toList written.toList) :
    unescape written = s := by
  have hspells := h.mono fun _ _ hw => hw.spelling
  rw [unescape, Json.unescape?_of_spells hspells]
  exact String.ofList_toList

/-! ## A name and one argument -/

/-- A text that names the command of a line when it stands at its start. -/
structure IsCommandName (name : String) : Prop where
  ne_empty : name.toList ≠ []
  not_blank : ∀ c ∈ name.toList, isBlank c = false
  not_comment : name.toList.head? ≠ some '#'

/-- A source with a name, one space and a text without blanks is one line of these two words. -/
theorem sole_line {name written : String} (hname : IsCommandName name)
    (hne : written.toList ≠ []) (hwritten : ∀ c ∈ written.toList, isBlank c = false) :
    ∃ line, sourceLines (name ++ " " ++ written) = [line] ∧ line.isComment = false
      ∧ line.words = [name.toList, written.toList] := by
  have hsource : (name ++ " " ++ written).toList = name.toList ++ ' ' :: written.toList := by
    simp
  have hnewline : '\n' ∉ (name ++ " " ++ written).toList := by
    have hblank : isBlank '\n' = true := by decide
    rw [hsource, List.mem_append, List.mem_cons]
    rintro (h | h | h)
    · simp [hname.not_blank _ h] at hblank
    · cases h
    · simp [hwritten _ h] at hblank
  have hwords : words (name.toList ++ ' ' :: written.toList)
      = [name.toList, written.toList] := by
    rw [words_append_cons_of_blank (by decide), words_of_not_blank hname.ne_empty hname.not_blank,
      words_of_not_blank hne hwritten]
    rfl
  have hraw : trim (name.toList ++ ' ' :: written.toList) ≠ [] := by
    rw [Ne, trim_eq_nil_iff, ← words_eq_nil_iff, hwords]
    exact List.cons_ne_nil _ _
  have hlines : sourceLines (name ++ " " ++ written)
      = (lineAt 0 (name.toList ++ ' ' :: written.toList)).toList := by
    show linesFrom 0 (rawLines (name ++ " " ++ written)) = _
    rw [rawLines_of_not_mem hnewline, hsource, linesFrom, linesFrom, List.append_nil]
  rw [lineAt_eq, if_neg hraw, Option.toList_some] at hlines
  generalize hline : Line.mk _ _ _ = line at hlines
  have hline_words : line.words = [name.toList, written.toList] := by
    rw [← hline, Line.words, String.toList_ofList, words_trim, hwords]
  refine ⟨line, hlines, ?_, hline_words⟩
  -- the line starts with its command, which does not start with `#`
  have hproper : line.Proper := proper_of_mem_sourceLines (hlines ▸ List.mem_singleton_self line)
  obtain ⟨-, rest, hfront⟩ := hproper.starts_with_command
  have hcommand : line.command.toList = name.toList := by
    rw [Line.command, hline_words, List.headD_cons, String.toList_ofList]
  rw [Line.isComment, ← hfront, hcommand, List.head?_append_of_ne_nil _ hname.ne_empty]
  simpa using hname.not_comment

/-- What compiling makes of the answer of the one command of a source. -/
def soleOutcome (line : Line) : Except CommandError Step → Except ScriptError Step
  | .ok step => .ok (.pipe [step])
  | .error cause => .error (.compile [.refused line cause])

theorem compile_of_two_words {source name written : String} {line : Line}
    (hlines : sourceLines source = [line]) (hcomment : line.isComment = false)
    (hwords : line.words = [name.toList, written.toList]) {registry : Registry} {command : Command}
    (hget : registry.get? name = some command) :
    compile source registry
      = soleOutcome line (command.build (some (command.form.decode written))) := by
  have hcommand : line.command = name := by
    rw [Line.command, hwords, List.headD_cons, String.ofList_toList]
  have hargument : line.argument = some written := by
    rw [Line.argument, hwords]
    simp
  rw [compile_of_sole_line hlines hcomment, compileLine, hcommand, hget, hargument]
  simp only [Option.map_some]
  cases command.build (some (command.form.decode written)) with
  | ok step => rfl
  | error cause => rfl

/-- **A command that is written with one protected text gets that text, and no other.** -/
theorem compile_protected {s name written : String} (hs : s ≠ "") (hname : IsCommandName name)
    (h : Protected s.toList written.toList) :
    ∃ line, sourceLines (name ++ " " ++ written) = [line]
      ∧ ∀ (registry : Registry) (build : Factory),
        (registry.get? name = some ⟨.escaped, build⟩ →
          compile (name ++ " " ++ written) registry = soleOutcome line (build (some s)))
        ∧ (registry.get? name = some ⟨.raw, build⟩ →
          compile (name ++ " " ++ written) registry = soleOutcome line (build (some written))) := by
  have hne : written.toList ≠ [] := h.ne_nil (fun _ _ hw => hw.ne_nil) (by simpa using hs)
  have hblank := h.forall_mem fun _ _ hw => hw.not_blank
  obtain ⟨line, hlines, hcomment, hwords⟩ := sole_line hname hne hblank
  refine ⟨line, hlines, fun registry build => ⟨fun hget => ?_, fun hget => ?_⟩⟩
  · have hcompile := compile_of_two_words hlines hcomment hwords hget
    rwa [ArgumentForm.decode, unescape_of_protected h] at hcompile
  · exact compile_of_two_words hlines hcomment hwords hget

/-! ## Lines without an argument -/

/-- No argument is decoded to an empty one. -/
theorem decode_ne_empty (form : ArgumentForm) {written : String} (h : written ≠ "") :
    form.decode written ≠ "" := by
  cases form with
  | raw => exact h
  | escaped =>
    show unescape written ≠ ""
    rw [unescape]
    split
    · next text htext =>
      have hne := Json.ne_nil_of_unescape? (by simpa using h) htext
      simpa using hne
    · exact h

theorem Line.Proper.words_ne_nil {line : Line} (h : line.Proper) : line.words ≠ [] := by
  rw [Line.words, Ne, words_eq_nil_iff, ← trim_eq_nil_iff, h.trimmed]
  exact h.ne_nil

theorem argument_eq_none_iff {line : Line} (h : line.Proper) :
    line.argument = none ↔ line.words.length = 1 := by
  obtain ⟨w, ws, hwords⟩ := List.exists_cons_of_ne_nil h.words_ne_nil
  rw [Line.argument, hwords, List.tail_cons]
  cases ws with
  | nil => simp
  | cons v vs => simp

theorem argument_ne_empty (line : Line) : line.argument ≠ some "" := fun h =>
  (Line.spaced_argument h).ne_nil rfl

/-- The argument that every command of this form gets from the line: none iff the line is only a
name, and never an empty text. -/
theorem exists_argument {line : Line} (h : line.Proper) (form : ArgumentForm) :
    ∃ argument : Option String,
      (∀ (registry : Registry) (build : Factory), registry.get? line.command = some ⟨form, build⟩ →
        compileLine registry line = (build argument).mapError (.refused line))
      ∧ (argument = none ↔ line.words.length = 1) ∧ argument ≠ some "" := by
  refine ⟨line.argument.map form.decode, fun registry build hget => ?_, ?_, ?_⟩
  · rw [compileLine, hget]
  · rw [Option.map_eq_none_iff, argument_eq_none_iff h]
  · intro hempty
    obtain ⟨written, hwritten, hdecoded⟩ := Option.map_eq_some_iff.mp hempty
    refine decode_ne_empty form (fun hnil => ?_) hdecoded
    exact argument_ne_empty line (hnil ▸ hwritten)

/-! ## Both directions -/

/-- **Every text can be passed to a command, and nothing else arrives.** Every text can be written
protected. A line of a name and a protected text that is not empty is one call of the command of
that name, with the text itself if the command decodes its argument, and with what is written if it
does not. And whatever the line, a command gets no argument iff the line is only a name, and never
an empty one. -/
theorem arguments_arrive :
    (∀ s : String, ∃ written : String, Protected s.toList written.toList)
    ∧ (∀ s name written : String, s ≠ "" → IsCommandName name →
      Protected s.toList written.toList →
      ∃ line, sourceLines (name ++ " " ++ written) = [line]
        ∧ ∀ (registry : Registry) (build : Factory),
          (registry.get? name = some ⟨.escaped, build⟩ →
            compile (name ++ " " ++ written) registry = soleOutcome line (build (some s)))
          ∧ (registry.get? name = some ⟨.raw, build⟩ →
            compile (name ++ " " ++ written) registry = soleOutcome line (build (some written))))
    ∧ ∀ source file script, parse source file = .ok script → ∀ line ∈ Block.lines script.root,
      ∀ form, ∃ argument : Option String,
        (∀ (registry : Registry) (build : Factory),
          registry.get? line.command = some ⟨form, build⟩ →
          compileLine registry line = (build argument).mapError (.refused line))
        ∧ (argument = none ↔ line.words.length = 1) ∧ argument ≠ some "" := by
  refine ⟨fun s => ?_, fun s name written hs hname h => compile_protected hs hname h, ?_⟩
  · obtain ⟨written, h⟩ := Json.Spells.exists_of_forall CharProtected.exists_protected s.toList
    exact ⟨String.ofList written, by rwa [String.toList_ofList]⟩
  · intro source file script hparse line hline form
    obtain ⟨hnone, rfl⟩ := parse_eq_ok_iff.mp hparse
    rw [lines_rootBlock hnone] at hline
    exact exists_argument (proper_of_mem_sourceLines hline) form

/-- A command that only says what it was given. -/
def sayRegistry : Registry :=
  Registry.empty.register "say" .escaped fun argument =>
    .error (.invalidArgument "say" (argument.getD "nothing"))

theorem arguments_arrive_say :
    ∃ line, compile ("say" ++ " " ++ "\\u000a\\\"é\\u3000\\\\") sayRegistry
      = .error (.compile [.refused line (.invalidArgument "say" "\n\"é\u3000\\")]) := by
  have hblank : "say".toList.all fun c => !isBlank c := by decide
  have hname : IsCommandName "say" := ⟨by decide, by simpa using hblank, by decide⟩
  have htext : "\n\"é\u3000\\".toList = ['\n', '"', 'é', '\u3000', '\\'] := by decide
  have hwritten : "\\u000a\\\"é\\u3000\\\\".toList
      = ['\\', 'u', '0', '0', '0', 'a'] ++ (['\\', '"'] ++ (['é']
        ++ (['\\', 'u', '3', '0', '0', '0'] ++ (['\\', '\\'] ++ [])))) := by decide
  have hprotected : Protected "\n\"é\u3000\\".toList "\\u000a\\\"é\\u3000\\\\".toList := by
    have hzero : IsHexDigit '0' 0 := ⟨by decide, .inl rfl⟩
    rw [htext, hwritten]
    refine .cons (.code (l := 10) (by decide) hzero hzero hzero ⟨by decide, .inl rfl⟩ rfl)
      (.cons (.mark (.inl rfl)) (.cons (.plain (by decide) (by decide) (by decide) (by decide))
        (.cons (.code (i := 3) (by decide) ⟨by decide, .inl rfl⟩ hzero hzero hzero rfl)
          (.cons (.mark (.inr rfl)) .nil))))
  obtain ⟨line, -, hcompile⟩ := arguments_arrive.2.1 _ _ _ (by decide) hname hprotected
  exact ⟨line, (hcompile sayRegistry _).1 rfl⟩

end CheckScript
