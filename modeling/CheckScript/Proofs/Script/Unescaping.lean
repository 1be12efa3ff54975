import CheckScript.Json.Printer
import CheckScript.Proofs.Script.Arguments

/-!
# Which arguments are decoded

An argument is decoded if it is the inside of a quoted JSON string, and stays as it is otherwise.
`EscapedChar` is the grammar of what may stand there for one character. Reading and the grammar
agree in both directions (`unescape?_eq_some_iff`), so nothing is ever decoded in part.

## Main statement

* `unescape_decodes_exactly`: the grammar decides, and what is written for a text is decoded to it.
-/

namespace CheckScript

open Text

/-! ## The grammar -/

/-- The letters that may stand behind a reverse solidus, with what they stand for. -/
def escapeLetters : List (Char × Char) :=
  [('"', '"'), ('\\', '\\'), ('/', '/'), ('b', '\x08'), ('f', '\x0c'), ('n', '\n'), ('r', '\r'),
    ('t', '\t')]

/-- Four hexadecimal digits, of either case, write the number. -/
inductive HexCode : List Char → Nat → Prop
  | mk {p q r s : Char} {i j k l : Nat} :
    IsHexDigit p i → IsHexDigit q j → IsHexDigit r k → IsHexDigit s l →
    HexCode [p, q, r, s] (((i * 16 + j) * 16 + k) * 16 + l)

/-- What may be written for a character. -/
inductive EscapedChar (c : Char) : List Char → Prop
  | plain : c ≠ '"' → c ≠ '\\' → 0x20 ≤ c.toNat → EscapedChar c [c]
  | letter {l : Char} : (l, c) ∈ escapeLetters → EscapedChar c ['\\', l]
  /-- No character has the number of a surrogate. -/
  | code {digits : List Char} : HexCode digits c.toNat → EscapedChar c ('\\' :: 'u' :: digits)
  /-- A first half of a surrogate pair, and a second half right behind it. -/
  | pair {digits digits' : List Char} {high low : Nat} :
    HexCode digits high → HexCode digits' low → 0xD800 ≤ high → high ≤ 0xDBFF → 0xDC00 ≤ low →
    low ≤ 0xDFFF → c.toNat = 0x10000 + (high - 0xD800) * 0x400 + (low - 0xDC00) →
    EscapedChar c ('\\' :: 'u' :: (digits ++ '\\' :: 'u' :: digits'))

/-- The second text is the first one, character by character in a way that can be decoded. -/
abbrev Escaped : List Char → List Char → Prop := Json.Spells EscapedChar

theorem simpleEscape_eq_some_iff {l c : Char} :
    Json.simpleEscape l = some c ↔ (l, c) ∈ escapeLetters := by
  constructor
  · intro h
    unfold Json.simpleEscape at h
    split at h
    case h_9 => cases h
    all_goals
      obtain rfl := Option.some.inj h
      decide
  · intro h
    simp only [escapeLetters, List.mem_cons, Prod.mk.injEq, List.not_mem_nil, or_false] at h
    rcases h with ⟨rfl, rfl⟩ | ⟨rfl, rfl⟩ | ⟨rfl, rfl⟩ | ⟨rfl, rfl⟩ | ⟨rfl, rfl⟩ | ⟨rfl, rfl⟩
      | ⟨rfl, rfl⟩ | ⟨rfl, rfl⟩ <;> rfl

theorem isHexDigit_of_hexValue {d : Char} {n : Nat} (h : hexValue d = some n) : IsHexDigit d n := by
  have hall : ∀ m ∈ List.range 0x67, ∀ n ∈ hexValue (Char.ofNat m),
      n < 16 ∧ (Char.ofNat m = hexDigit n ∨ Char.ofNat m = (hexDigit n).toUpper) := by decide
  have hlt : d.toNat < 0x67 := by
    simp only [hexValue, Bool.and_eq_true, decide_eq_true_eq] at h
    by_contra hge
    rw [if_neg (by omega), if_neg (by omega), if_neg (by omega)] at h
    cases h
  have hd := hall d.toNat (List.mem_range.mpr hlt) n (by rwa [Char.ofNat_toNat])
  rwa [Char.ofNat_toNat] at hd

theorem hexNumber_eq_some_iff {p q r s : Char} {n : Nat} :
    Json.hexNumber p q r s = some n ↔ HexCode [p, q, r, s] n := by
  constructor
  · intro h
    simp only [Json.hexNumber, Option.bind_eq_bind, Option.bind_eq_some_iff,
      Option.some.injEq] at h
    obtain ⟨i, hi, j, hj, k, hk, l, hl, rfl⟩ := h
    exact .mk (isHexDigit_of_hexValue hi) (isHexDigit_of_hexValue hj) (isHexDigit_of_hexValue hk)
      (isHexDigit_of_hexValue hl)
  · rintro ⟨hp, hq, hr, hs⟩
    simp only [Json.hexNumber, hexValue_of_isHexDigit hp, hexValue_of_isHexDigit hq,
      hexValue_of_isHexDigit hr, hexValue_of_isHexDigit hs, Option.bind_eq_bind, Option.bind_some]

theorem toNat_ofNat_of_valid {n : Nat} (h : n.isValidChar) : (Char.ofNat n).toNat = n := by
  unfold Char.ofNat
  rw [dif_pos h]
  rfl

theorem toNat_combineSurrogates {high low : Nat} (hhigh : Json.isHighSurrogate high = true)
    (hlow : Json.isLowSurrogate low = true) :
    (Json.combineSurrogates high low).toNat
      = 0x10000 + (high - 0xD800) * 0x400 + (low - 0xDC00) := by
  simp only [Json.isHighSurrogate, Json.isLowSurrogate, Bool.and_eq_true, decide_eq_true_eq]
    at hhigh hlow
  refine toNat_ofNat_of_valid (.inr ⟨?_, ?_⟩) <;> omega

/-! ## What the grammar has is read -/

theorem readEscape_pair {p q r s e f g h : Char} {high low : Nat} {c : Char}
    (hhigh : Json.hexNumber p q r s = some high) (hlow : Json.hexNumber e f g h = some low)
    (hfirst : Json.isHighSurrogate high = true) (hsecond : Json.isLowSurrogate low = true)
    (hc : c = Json.combineSurrogates high low) (rest : List Char) :
    Json.readEscape ('u' :: p :: q :: r :: s :: '\\' :: 'u' :: e :: f :: g :: h :: rest)
      = some (c, rest) := by
  have hnot : Json.isLowSurrogate high = false := by
    simp only [Json.isHighSurrogate, Json.isLowSurrogate, Bool.and_eq_true, decide_eq_true_eq,
      Bool.and_eq_false_iff, decide_eq_false_iff_not] at hfirst ⊢
    omega
  simp only [Json.readEscape, hhigh, hlow, hfirst, hsecond, hnot, Bool.false_eq_true, if_false,
    if_true, hc]

theorem readBody_append_escaped {c : Char} {w : List Char} (h : EscapedChar c w)
    (rest : List Char) :
    Json.readBody (w ++ rest)
      = (Json.readBody rest).map fun (body, after) => (c :: body, after) := by
  cases h with
  | plain hquote hescape hcontrol =>
    exact Json.readBody_append (.plain hquote hescape hcontrol) rest
  | letter h => exact Json.readBody_append (.letter (simpleEscape_eq_some_iff.mpr h)) rest
  | @code digits h =>
    generalize hn : c.toNat = n at h
    cases h with
    | mk hp hq hr hs =>
      have hnumber := hexNumber_eq_some_iff.mpr (.mk hp hq hr hs)
      exact Json.readBody_append (.code (hn ▸ hnumber)) rest
  | @pair digits digits' high low hdigits hdigits' hhigh hhigh' hlow hlow' hc =>
    have hfirst : Json.isHighSurrogate high = true := by
      simp [Json.isHighSurrogate, hhigh, hhigh']
    have hsecond : Json.isLowSurrogate low = true := by simp [Json.isLowSurrogate, hlow, hlow']
    have hpair : c = Json.combineSurrogates high low :=
      Char.toNat_inj.mp (hc.trans (toNat_combineSurrogates hfirst hsecond).symm)
    cases hdigits with
    | mk hp hq hr hs =>
      cases hdigits' with
      | mk he hf hg hh =>
        exact Json.readBody_escape_cons (readEscape_pair
          (hexNumber_eq_some_iff.mpr (.mk hp hq hr hs))
          (hexNumber_eq_some_iff.mpr (.mk he hf hg hh)) hfirst hsecond hpair rest)

/-! ## What is read is in the grammar -/

theorem HexCode.lt {digits : List Char} {n : Nat} (h : HexCode digits n) : n < 0x10000 := by
  cases h with
  | mk hp hq hr hs =>
    have := hp.1
    have := hq.1
    have := hr.1
    have := hs.1
    omega

/-- An escape that is read is one of the grammar. -/
theorem escapedChar_of_readEscape {cs rest : List Char} {c : Char}
    (h : Json.readEscape cs = some (c, rest)) :
    ∃ w, cs = w ++ rest ∧ EscapedChar c ('\\' :: w) := by
  fun_cases Json.readEscape cs with
  | case4 p q r s high hhigh _ hfirst e f g i tail low hlow hsecond =>
    rw [readEscape_pair hhigh hlow hfirst hsecond rfl] at h
    obtain ⟨rfl, rfl⟩ := Prod.mk.inj (Option.some.inj h)
    have hvalue := toNat_combineSurrogates hfirst hsecond
    simp only [Json.isHighSurrogate, Json.isLowSurrogate, Bool.and_eq_true, decide_eq_true_eq]
      at hfirst hsecond
    exact ⟨['u', p, q, r, s, '\\', 'u', e, f, g, i], rfl,
      .pair (hexNumber_eq_some_iff.mp hhigh) (hexNumber_eq_some_iff.mp hlow) hfirst.1 hfirst.2
        hsecond.1 hsecond.2 hvalue⟩
  | case7 p q r s tail n hn hlow hhigh =>
    have hdigits := hexNumber_eq_some_iff.mp hn
    have hvalid : n.isValidChar := by
      have hlt := hdigits.lt
      simp only [Json.isHighSurrogate, Json.isLowSurrogate, Bool.and_eq_true, decide_eq_true_eq]
        at hlow hhigh
      show n < 0xD800 ∨ 0xDFFF < n ∧ n < 0x110000
      omega
    have hcode : Json.hexNumber p q r s = some (Char.ofNat n).toNat := by
      rw [hn, toNat_ofNat_of_valid hvalid]
    rw [Json.readEscape_code hcode] at h
    obtain ⟨rfl, rfl⟩ := Prod.mk.inj (Option.some.inj h)
    exact ⟨['u', p, q, r, s], rfl, .code (hexNumber_eq_some_iff.mp hcode)⟩
  | case8 l tail hletter =>
    rw [Json.readEscape] at h
    swap
    · exact hletter
    obtain ⟨d, hd, heq⟩ := Option.map_eq_some_iff.mp h
    obtain ⟨rfl, rfl⟩ := Prod.mk.inj heq
    exact ⟨[l], rfl, .letter (simpleEscape_eq_some_iff.mp hd)⟩
  | case9 => cases h
  | _ => simp_all [Json.readEscape]

theorem escaped_of_readBody {cs text after : List Char}
    (h : Json.readBody cs = some (text, after)) :
    ∃ body, cs = body ++ '"' :: after ∧ Escaped text body := by
  fun_induction Json.readBody cs generalizing text after with
  | case1 => cases h
  | case2 cs =>
    obtain ⟨rfl, rfl⟩ := Prod.mk.inj (Option.some.inj h)
    exact ⟨[], rfl, .nil⟩
  | case3 cs d rest hd _ ih =>
    obtain ⟨⟨text', after'⟩, hrest, heq⟩ := Option.map_eq_some_iff.mp h
    obtain ⟨rfl, rfl⟩ := Prod.mk.inj heq
    obtain ⟨body, rfl, hbody⟩ := ih hrest
    obtain ⟨w, rfl, hw⟩ := escapedChar_of_readEscape hd
    exact ⟨'\\' :: w ++ body, by simp, .cons hw hbody⟩
  | case4 => cases h
  | case5 => cases h
  | case6 c cs hquote hescape hcontrol ih =>
    obtain ⟨⟨text', after'⟩, hrest, heq⟩ := Option.map_eq_some_iff.mp h
    obtain ⟨rfl, rfl⟩ := Prod.mk.inj heq
    obtain ⟨body, rfl, hbody⟩ := ih hrest
    exact ⟨[c] ++ body, rfl, .cons (.plain hquote hescape (Nat.not_lt.mp hcontrol)) hbody⟩

/-- **A text is decoded iff the grammar has it, and to what the grammar has it for.** -/
theorem unescape?_eq_some_iff {body text : List Char} :
    Json.unescape? body = some text ↔ Escaped text body := by
  constructor
  · intro h
    unfold Json.unescape? at h
    split at h
    · next decoded hbody =>
      obtain rfl := Option.some.inj h
      obtain ⟨body', heq, hescaped⟩ := escaped_of_readBody hbody
      rwa [List.append_cancel_right heq]
    · cases h
  · intro h
    unfold Json.unescape?
    rw [Json.readBody_of_forall readBody_append_escaped h []]

/-! ## Arguments -/

theorem unescape_of_escaped {raw text : String} (h : Escaped text.toList raw.toList) :
    unescape raw = text := by
  unfold unescape
  rw [unescape?_eq_some_iff.mpr h]
  exact String.ofList_toList

theorem unescape_of_not_escaped {raw : String}
    (h : ∀ text : String, ¬Escaped text.toList raw.toList) : unescape raw = raw := by
  unfold unescape
  split
  · next text htext =>
    refine absurd (unescape?_eq_some_iff.mp htext) ?_
    simpa using h (String.ofList text)
  · rfl

/-- Without a reverse solidus every character stands for itself. -/
theorem eq_of_escaped {cs ws : List Char} (h : Escaped cs ws) (hws : '\\' ∉ ws) : cs = ws := by
  induction h with
  | nil => rfl
  | @cons c cs w ws hc _ ih =>
    rw [List.mem_append, not_or] at hws
    cases hc with
    | plain _ _ _ => rw [ih hws.2, List.singleton_append]
    | letter _ => simp at hws
    | code _ => simp at hws
    | pair _ _ _ _ _ _ _ => simp at hws

theorem unescape_of_not_mem {raw : String} (h : '\\' ∉ raw.toList) : unescape raw = raw := by
  by_cases hescaped : ∃ text : String, Escaped text.toList raw.toList
  · obtain ⟨text, htext⟩ := hescaped
    rw [unescape_of_escaped htext, String.toList_inj.mp (eq_of_escaped htext h)]
  · exact unescape_of_not_escaped (not_exists.mp hescaped)

/-- A text as it is written between quotation marks, without them. -/
theorem unescape_compact (t : String) :
    unescape (String.ofList (Json.compact (.text t)).tail.dropLast) = t := by
  have hbody : (Json.compact (.text t)).tail.dropLast = Json.escape t.toList := by
    rw [Json.compact]
    · show (Json.escape t.toList ++ ['"']).dropLast = _
      exact List.dropLast_concat
    all_goals simp
  unfold unescape
  rw [hbody, String.toList_ofList, Json.unescape?_of_spells (Json.spells_escape _)]
  exact String.ofList_toList

/-- **An argument is decoded if all of it is in the grammar, and otherwise none of it is.** Then an
argument without a reverse solidus stays as it is, and the JSON text of any text, without its
quotation marks, is decoded to that text. -/
theorem unescape_decodes_exactly :
    (∀ raw text : String, Escaped text.toList raw.toList → unescape raw = text)
    ∧ (∀ raw : String, (∀ text : String, ¬Escaped text.toList raw.toList) → unescape raw = raw)
    ∧ (∀ raw : String, '\\' ∉ raw.toList → unescape raw = raw)
    ∧ ∀ t : String, unescape (String.ofList (Json.compact (.text t)).tail.dropLast) = t :=
  ⟨fun _ _ h => unescape_of_escaped h, fun _ h => unescape_of_not_escaped h,
    fun _ h => unescape_of_not_mem h, unescape_compact⟩

/-- A surrogate pair with a solidus behind it, and a pattern in which one of the two escapes is
none, so that the other one stays as well. -/
theorem unescape_decodes_exactly_pair :
    unescape "\\ud83d\\uDE00\\/" = "😀/" ∧ unescape "\\d\\n" = "\\d\\n" := by
  have hwritten : "\\ud83d\\uDE00\\/".toList
      = ['\\', 'u', 'd', '8', '3', 'd', '\\', 'u', 'D', 'E', '0', '0'] ++ (['\\', '/'] ++ []) := by
    decide
  have htext : "😀/".toList = ['😀', '/'] := by decide
  have hhigh : HexCode ['d', '8', '3', 'd'] 0xD83D :=
    .mk (i := 0xD) (j := 8) (k := 3) (l := 0xD) ⟨by decide, .inl rfl⟩ ⟨by decide, .inl rfl⟩
      ⟨by decide, .inl rfl⟩ ⟨by decide, .inl rfl⟩
  have hlow : HexCode ['D', 'E', '0', '0'] 0xDE00 :=
    .mk (i := 0xD) (j := 0xE) (k := 0) (l := 0) ⟨by decide, .inr rfl⟩ ⟨by decide, .inr rfl⟩
      ⟨by decide, .inl rfl⟩ ⟨by decide, .inl rfl⟩
  have hescaped : Escaped "😀/".toList "\\ud83d\\uDE00\\/".toList := by
    rw [htext, hwritten]
    refine .cons (.pair hhigh hlow ?_ ?_ ?_ ?_ ?_) (.cons (.letter ?_) .nil) <;> decide
  have hnot : ∀ text : String, ¬Escaped text.toList "\\d\\n".toList := by
    intro text h
    generalize hraw : "\\d\\n".toList = raw at h
    generalize text.toList = cs at h
    have hraw' : ['\\', 'd', '\\', 'n'] = raw := hraw
    cases h with
    | nil => cases hraw'
    | cons hc _ =>
      cases hc with
      | plain _ hescape _ => exact hescape (List.cons.inj hraw').1.symm
      | letter hletter =>
        obtain ⟨rfl, -⟩ := List.cons.inj (List.cons.inj hraw').2
        simp [escapeLetters] at hletter
      | code _ => cases (List.cons.inj (List.cons.inj hraw').2).1
      | pair _ _ _ _ _ _ _ => cases (List.cons.inj (List.cons.inj hraw').2).1
  exact ⟨unescape_decodes_exactly.1 _ _ hescaped, unescape_decodes_exactly.2.1 _ hnot⟩

end CheckScript
