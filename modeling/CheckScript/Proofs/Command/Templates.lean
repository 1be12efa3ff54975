import CheckScript.Command.Text
import Mathlib.Data.List.Infix
import Mathlib.Data.List.TakeWhile

/-!
# What becomes of a template

A placeholder can be cut out of its template: no key has a brace in it, so that what stands in front
of an opening brace is filled for itself (`fill_append_open`), and so is what follows the closing
one (`fill_placeholder`). A text without placeholders stays as it is (`fill_of_not_hasPlaceholder`),
and together these say what any text is filled to (`filled_iff`).

## Main statement

* `template_substitutes_once`: all of this, of the command.
-/

namespace CheckScript.Command

namespace Template

/-! ## Placeholders -/

/-- The text is not empty, and made of ASCII letters, digits, `_`, `.` and `-`. -/
structure IsKey (key : List Char) : Prop where
  ne_nil : key ≠ []
  chars : ∀ c ∈ key, c.isAlphanum = true ∨ c = '_' ∨ c = '.' ∨ c = '-'

/-- A key with the braces around it. -/
def placeholder (key : List Char) : List Char := '\x7b' :: (key ++ ['\x7d'])

/-- A key stands between braces somewhere in the text. -/
def HasPlaceholder (cs : List Char) : Prop := ∃ key, IsKey key ∧ placeholder key <:+: cs

theorem isKeyChar_iff {c : Char} :
    isKeyChar c = true ↔ c.isAlphanum = true ∨ c = '_' ∨ c = '.' ∨ c = '-' := by
  simp [isKeyChar, or_assoc]

theorem IsKey.all_isKeyChar {key : List Char} (h : IsKey key) : ∀ c ∈ key, isKeyChar c = true :=
  fun c hc => isKeyChar_iff.mpr (h.chars c hc)

instance (key : List Char) : Decidable (IsKey key) :=
  decidable_of_iff (key.isEmpty = false ∧ key.all isKeyChar = true) <| by
    constructor
    · rintro ⟨hne, hall⟩
      exact ⟨by simpa using hne, fun c hc => isKeyChar_iff.mp (List.all_eq_true.mp hall c hc)⟩
    · intro h
      exact ⟨by simpa using h.ne_nil, List.all_eq_true.mpr h.all_isKeyChar⟩

theorem IsKey.not_mem {key : List Char} (h : IsKey key) {c : Char} (hc : isKeyChar c = false) :
    c ∉ key := by
  intro hmem
  rw [h.all_isKeyChar c hmem] at hc
  cases hc

/-- **A key is read iff it stands in front, with a closing brace behind it.** -/
theorem readKey?_eq_some_iff {cs key rest : List Char} :
    readKey? cs = some (key, rest) ↔ IsKey key ∧ cs = key ++ '\x7d' :: rest := by
  constructor
  · intro h
    have hcut := List.takeWhile_append_dropWhile (p := isKeyChar) (l := cs)
    unfold readKey? at h
    split at h
    · cases h
    · next c after hdrop =>
      split at h
      · next hclosed =>
        obtain ⟨rfl, hne⟩ := hclosed
        cases h
        rw [hdrop] at hcut
        exact ⟨⟨hne, fun c hc => isKeyChar_iff.mp (List.mem_takeWhile_imp hc)⟩, hcut.symm⟩
      · cases h
  · rintro ⟨hkey, rfl⟩
    have htake : (key ++ '\x7d' :: rest).takeWhile isKeyChar = key := by
      rw [List.takeWhile_append_of_pos hkey.all_isKeyChar, List.takeWhile_cons_of_neg (by decide),
        List.append_nil]
    have hdrop : (key ++ '\x7d' :: rest).dropWhile isKeyChar = '\x7d' :: rest := by
      rw [List.dropWhile_append_of_pos hkey.all_isKeyChar, List.dropWhile_cons_of_neg (by decide)]
    simp [readKey?, hdrop, htake, hkey.ne_nil]

theorem hasPlaceholder_cons_iff {c : Char} {cs : List Char} :
    HasPlaceholder (c :: cs)
      ↔ (c = '\x7b' ∧ (readKey? cs).isSome = true) ∨ HasPlaceholder cs := by
  constructor
  · rintro ⟨key, hkey, hinfix⟩
    rcases List.infix_cons_iff.mp hinfix with ⟨rest, hrest⟩ | hinfix
    · obtain ⟨rfl, hcs⟩ := List.cons.inj hrest
      have hread : readKey? cs = some (key, rest) :=
        readKey?_eq_some_iff.mpr ⟨hkey, hcs.symm.trans (List.append_assoc key ['\x7d'] rest)⟩
      exact .inl ⟨rfl, by rw [hread]; rfl⟩
    · exact .inr ⟨key, hkey, hinfix⟩
  · rintro (⟨rfl, hread⟩ | ⟨key, hkey, hinfix⟩)
    · obtain ⟨⟨key, rest⟩, hread⟩ := Option.isSome_iff_exists.mp hread
      obtain ⟨hkey, rfl⟩ := readKey?_eq_some_iff.mp hread
      exact ⟨key, hkey, [], rest, by simp [placeholder]⟩
    · exact ⟨key, hkey, hinfix.trans (List.suffix_cons c cs).isInfix⟩

theorem not_hasPlaceholder_nil : ¬HasPlaceholder [] := by
  rintro ⟨key, -, hinfix⟩
  exact List.cons_ne_nil _ _ (List.infix_nil.mp hinfix)

instance decidableHasPlaceholder : (cs : List Char) → Decidable (HasPlaceholder cs)
  | [] => isFalse not_hasPlaceholder_nil
  | _ :: cs =>
    have := decidableHasPlaceholder cs
    decidable_of_iff _ hasPlaceholder_cons_iff.symm

/-- A text with placeholders has a first one. -/
theorem exists_first_placeholder {cs : List Char} (h : HasPlaceholder cs) :
    ∃ before key after, cs = before ++ (placeholder key ++ after) ∧ ¬HasPlaceholder before
      ∧ IsKey key := by
  induction cs with
  | nil => exact absurd h not_hasPlaceholder_nil
  | cons c cs ih =>
    by_cases hread : c = '\x7b' ∧ (readKey? cs).isSome = true
    · obtain ⟨rfl, hread⟩ := hread
      obtain ⟨⟨key, rest⟩, hread⟩ := Option.isSome_iff_exists.mp hread
      obtain ⟨hkey, rfl⟩ := readKey?_eq_some_iff.mp hread
      exact ⟨[], key, rest, by simp [placeholder], not_hasPlaceholder_nil, hkey⟩
    · obtain ⟨before, key, after, rfl, hbefore, hkey⟩ :=
        ih ((hasPlaceholder_cons_iff.mp h).resolve_left hread)
      refine ⟨c :: before, key, after, rfl, fun hfirst => ?_, hkey⟩
      -- a key that is closed in front of the placeholder is closed in the whole text as well
      rcases hasPlaceholder_cons_iff.mp hfirst with ⟨rfl, hsome⟩ | hbehind
      · obtain ⟨⟨other, rest⟩, hother⟩ := Option.isSome_iff_exists.mp hsome
        obtain ⟨hisKey, rfl⟩ := readKey?_eq_some_iff.mp hother
        refine hread ⟨rfl, ?_⟩
        rw [readKey?_eq_some_iff.mpr ⟨hisKey, by rw [List.append_assoc, List.cons_append]⟩]
        rfl
      · exact hbefore hbehind

/-! ## Filling -/

variable {meaning : List Char → List Char}

theorem fill_placeholder {key : List Char} (hkey : IsKey key) (rest : List Char) :
    fill meaning (placeholder key ++ rest) = meaning key ++ fill meaning rest := by
  have hread : readKey? (key ++ ['\x7d'] ++ rest) = some (key, rest) :=
    readKey?_eq_some_iff.mpr ⟨hkey, by simp⟩
  rw [placeholder, List.cons_append, fill, if_pos rfl]
  split
  · next key' rest' h =>
    rw [hread] at h
    cases h
    rfl
  · next h =>
    rw [hread] at h
    cases h

/-- A character that opens no placeholder is copied. -/
theorem fill_cons {c : Char} {cs : List Char}
    (h : ¬(c = '\x7b' ∧ (readKey? cs).isSome = true)) :
    fill meaning (c :: cs) = c :: fill meaning cs := by
  rw [fill]
  split
  · next hc =>
    split
    · next hread => exact absurd ⟨hc, by rw [hread]; rfl⟩ h
    · rfl
  · rfl

/-- **A text without placeholders stays as it is.** -/
theorem fill_of_not_hasPlaceholder {cs : List Char} (h : ¬HasPlaceholder cs) :
    fill meaning cs = cs := by
  induction cs with
  | nil => rw [fill]
  | cons c cs ih =>
    rw [hasPlaceholder_cons_iff, not_or] at h
    rw [fill_cons h.1, ih h.2]

/-- No key goes on behind an opening brace. -/
theorem readKey?_append_open {cs : List Char} (h : (readKey? cs).isSome = false)
    (rest : List Char) : (readKey? (cs ++ '\x7b' :: rest)).isSome = false := by
  by_contra hsome
  rw [Bool.not_eq_false] at hsome
  obtain ⟨⟨key, after⟩, hread⟩ := Option.isSome_iff_exists.mp hsome
  obtain ⟨hkey, heq⟩ := readKey?_eq_some_iff.mp hread
  rcases List.append_eq_append_iff.mp heq with ⟨part, rfl, hpart⟩ | ⟨part, rfl, hpart⟩
  · -- the key would reach behind `cs`, and so it would have the opening brace in it
    cases part with
    | nil => simp at hpart
    | cons c part =>
      obtain ⟨rfl, -⟩ := List.cons.inj hpart
      exact hkey.not_mem (c := '\x7b') (by decide) (by simp)
  · -- the key would be closed within `cs`
    cases part with
    | nil => simp at hpart
    | cons c part =>
      obtain ⟨rfl, -⟩ := List.cons.inj hpart
      rw [readKey?_eq_some_iff.mpr ⟨hkey, rfl⟩] at h
      cases h

/-- **What stands in front of an opening brace is filled for itself.** -/
theorem fill_append_open (before rest : List Char) :
    fill meaning (before ++ '\x7b' :: rest)
      = fill meaning before ++ fill meaning ('\x7b' :: rest) := by
  fun_induction fill meaning before with
  | case1 => rfl
  | case2 cs key after hread ih =>
    obtain ⟨hkey, rfl⟩ := readKey?_eq_some_iff.mp hread
    have hopen : '\x7b' :: (key ++ '\x7d' :: after) ++ '\x7b' :: rest
        = placeholder key ++ (after ++ '\x7b' :: rest) := by simp [placeholder]
    rw [hopen, fill_placeholder hkey, ih, List.append_assoc]
  | case3 cs hread ih =>
    have hnot := readKey?_append_open (by rw [hread]; rfl) rest
    rw [List.cons_append, fill_cons (by rw [hnot]; simp), ih, List.cons_append]
  | case4 c cs hc ih => rw [List.cons_append, fill_cons (fun h => hc h.1), ih, List.cons_append]

theorem fill_append_placeholder {key : List Char} (hkey : IsKey key) (before after : List Char) :
    fill meaning (before ++ (placeholder key ++ after))
      = fill meaning before ++ (meaning key ++ fill meaning after) := by
  rw [← fill_placeholder hkey]
  exact fill_append_open before (key ++ ['\x7d'] ++ after)

/-! ## Texts -/

/-- The text that a template is filled to, with these values for its keys. -/
def fillText (value : String → String) (t : String) : String :=
  String.ofList (fill (fun key => (value (String.ofList key)).toList) t.toList)

variable {value : String → String}

theorem fillText_of_not_hasPlaceholder {t : String} (h : ¬HasPlaceholder t.toList) :
    fillText value t = t := by
  rw [fillText, fill_of_not_hasPlaceholder h, String.ofList_toList]

/-- **A placeholder is replaced where it stands, and the texts around it are filled for
themselves.** -/
theorem fillText_append_placeholder {key : String} (hkey : IsKey key.toList)
    (before after : String) :
    fillText value (before ++ "\x7b" ++ key ++ "\x7d" ++ after)
      = fillText value before ++ value key ++ fillText value after := by
  have hcut : (before ++ "\x7b" ++ key ++ "\x7d" ++ after).toList
      = before.toList ++ (placeholder key.toList ++ after.toList) := by
    simp [placeholder]
  rw [fillText, hcut, fill_append_placeholder hkey, String.ofList_toList]
  simp [fillText, String.ofList_append, String.append_assoc]

/-- The second text is the first one with its placeholders replaced and all else copied, in one pass
from the left. -/
inductive Filled (value : String → String) : String → String → Prop
  | copied {t : String} : ¬HasPlaceholder t.toList → Filled value t t
  | replaced {before key after filled : String} :
    ¬HasPlaceholder before.toList → IsKey key.toList → Filled value after filled →
    Filled value (before ++ "\x7b" ++ key ++ "\x7d" ++ after) (before ++ value key ++ filled)

theorem filled_fillText (t : String) : Filled value t (fillText value t) := by
  -- on the length, as what is left to do stands behind the first placeholder
  induction hn : t.toList.length using Nat.strong_induction_on generalizing t with
  | _ n ih =>
    by_cases h : HasPlaceholder t.toList
    · obtain ⟨before, key, after, hcut, hbefore, hkey⟩ := exists_first_placeholder h
      have hshorter : after.length < n := by
        rw [← hn, hcut, placeholder, List.length_append, List.length_append, List.length_cons]
        omega
      obtain rfl : t = String.ofList before ++ "\x7b" ++ String.ofList key ++ "\x7d"
          ++ String.ofList after := by
        rw [← String.toList_inj, hcut]
        simp [placeholder]
      have hfilled := ih after.length hshorter (String.ofList after) (by rw [String.toList_ofList])
      rw [fillText_append_placeholder (by simpa using hkey),
        fillText_of_not_hasPlaceholder (by simpa using hbefore)]
      exact .replaced (by simpa using hbefore) (by simpa using hkey) hfilled
    · rw [fillText_of_not_hasPlaceholder h]
      exact .copied h

/-- **There is one way to fill a text**, and it is the way of `fillText`. -/
theorem filled_iff {t filled : String} : Filled value t filled ↔ filled = fillText value t := by
  constructor
  · intro h
    induction h with
    | copied hnot => exact (fillText_of_not_hasPlaceholder hnot).symm
    | replaced hnot hkey _ ih =>
      rw [fillText_append_placeholder hkey, fillText_of_not_hasPlaceholder hnot, ih]
  · rintro rfl
    exact filled_fillText t

/-! ## The command -/

/-- What the keys of a template stand for in a context, on an input. -/
structure Meanings (context : Context) (input : Value) (value : String → String) : Prop where
  input : value "." = input.display
  bound : ∀ key v, key ≠ "." → context.get? key = some v → value key = v.display
  unbound : ∀ key, key ≠ "." → context.get? key = none → value key = ""

theorem meanings_keyText (context : Context) (input : Value) :
    Meanings context input fun key => String.ofList (keyText context input key.toList) := by
  have hother : ∀ key : String, key ≠ "." → key.toList ≠ ['.'] := by
    intro key hkey heq
    exact hkey (String.toList_inj.mp heq)
  refine ⟨?_, fun key v hkey hget => ?_, fun key hkey hget => ?_⟩
  · show String.ofList input.display.toList = _
    rw [String.ofList_toList]
  · simp only [keyText, if_neg (hother key hkey), String.ofList_toList, hget]
  · simp only [keyText, if_neg (hother key hkey), String.ofList_toList, hget]

end Template

/-- Called with this argument, the command answers the input with the output in the context, which
it leaves as it was. -/
def AnswersIn (build : Factory) (argument : Option String) (context : Context)
    (input output : Value) : Prop :=
  ∃ step, build argument = .ok step ∧ step.run context input = ⟨.ok output, context⟩

theorem answersIn_template (context : Context) (input : Value) (t : String) :
    AnswersIn template (some t) context input (.text (Template.fillText
      (fun key => String.ofList (Template.keyText context input key.toList)) t)) := by
  refine ⟨_, rfl, ?_⟩
  rw [Step.run]
  simp [Template.fillText]

/-- **A template is filled in one pass, and part by part.** In a context, on an input, a template is
filled to a text. A placeholder is replaced by what its key stands for, and what stands before and
behind it is filled for itself; a text without placeholders stays as it is. So a template is copied
but for its placeholders, and what they are replaced by is not looked at again. The context stays as
it was. -/
theorem template_substitutes_once (context : Context) (input : Value) :
    ∃ value filled : String → String, Template.Meanings context input value
      ∧ (∀ t, AnswersIn template (some t) context input (.text (filled t)))
      ∧ (∀ t₁ key t₂, Template.IsKey key.toList →
        filled (t₁ ++ "\x7b" ++ key ++ "\x7d" ++ t₂) = filled t₁ ++ value key ++ filled t₂)
      ∧ (∀ t, ¬Template.HasPlaceholder t.toList → filled t = t)
      ∧ ∀ t s, Template.Filled value t s ↔ s = filled t :=
  ⟨_, _, Template.meanings_keyText context input, answersIn_template context input,
    fun t₁ _ t₂ hkey => Template.fillText_append_placeholder hkey t₁ t₂,
    fun _ => Template.fillText_of_not_hasPlaceholder, fun _ _ => Template.filled_iff⟩

/-- Doubled braces around a key, and a value that looks like a placeholder. -/
theorem template_substitutes_once_nested :
    AnswersIn template (some "x\x7b\x7ba\x7d\x7d\x7bb.\x7b.\x7d")
      (Context.fresh.insert "a" (.text "\x7b.\x7d $1")) (.list [.unit])
      (.text "x\x7b\x7b.\x7d $1\x7d\x7bb.[null]") := by
  obtain ⟨value, filled, hvalue, hanswers, hlaw, hcopied, -⟩ :=
    template_substitutes_once (Context.fresh.insert "a" (.text "\x7b.\x7d $1")) (.list [.unit])
  have ha : value "a" = "\x7b.\x7d $1" := hvalue.bound "a" (.text "\x7b.\x7d $1") (by decide) rfl
  have hdot : value "." = "[null]" := hvalue.input
  have h := hanswers ("x\x7b" ++ "\x7b" ++ "a" ++ "\x7d"
    ++ ("\x7d\x7bb." ++ "\x7b" ++ "." ++ "\x7d" ++ ""))
  rw [hlaw _ _ _ (by decide), hlaw _ _ _ (by decide), hcopied _ (by decide), hcopied _ (by decide),
    hcopied _ (by decide), ha, hdot] at h
  exact h

end CheckScript.Command
