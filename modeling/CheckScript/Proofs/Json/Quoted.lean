import CheckScript.Json.Quoted

/-!
# Strings are read back

Between quotation marks a text is spelled character by character, and most characters can be spelled
in more than one way (`CharSpelling`). However a text is spelled, it is read back up to its closing
quotation mark (`readBody_of_spells`). What `escape` writes is one such spelling (`spells_escape`),
and has no controls in it (`le_of_mem_quote`).
-/

namespace CheckScript.Json

open Text

/-! ## Spelling -/

/-- A way to write the character between quotation marks. Pairs of surrogates, which no character
needs, are left out. -/
inductive CharSpelling (c : Char) : List Char → Prop
  | plain : c ≠ '"' → c ≠ '\\' → 0x20 ≤ c.toNat → CharSpelling c [c]
  | letter {l : Char} : simpleEscape l = some c → CharSpelling c ['\\', l]
  | code {p q r s : Char} :
    hexNumber p q r s = some c.toNat → CharSpelling c ['\\', 'u', p, q, r, s]

/-- The second text writes the first one, each character in a way that `R` allows. -/
inductive Spells (R : Char → List Char → Prop) : List Char → List Char → Prop
  | nil : Spells R [] []
  | cons {c : Char} {cs w ws : List Char} : R c w → Spells R cs ws → Spells R (c :: cs) (w ++ ws)

namespace Spells

variable {R S : Char → List Char → Prop} {cs ws : List Char}

theorem mono (h : Spells R cs ws) (hRS : ∀ c w, R c w → S c w) : Spells S cs ws := by
  induction h with
  | nil => exact .nil
  | cons hc _ ih => exact .cons (hRS _ _ hc) ih

/-- What is true of the characters of every way is true of all that is written. -/
theorem forall_mem {P : Char → Prop} (h : Spells R cs ws) (hR : ∀ c w, R c w → ∀ d ∈ w, P d) :
    ∀ d ∈ ws, P d := by
  induction h with
  | nil => simp
  | cons hc _ ih => exact List.forall_mem_append.mpr ⟨hR _ _ hc, ih⟩

theorem ne_nil (h : Spells R cs ws) (hR : ∀ c w, R c w → w ≠ []) (hne : cs ≠ []) : ws ≠ [] := by
  cases h with
  | nil => exact absurd rfl hne
  | cons hc _ => exact fun hnil => hR _ _ hc (List.append_eq_nil_iff.mp hnil).1

/-- If there is a way to write each character, there is one to write each text. -/
theorem exists_of_forall (h : ∀ c, ∃ w, R c w) (cs : List Char) : ∃ ws, Spells R cs ws := by
  induction cs with
  | nil => exact ⟨[], .nil⟩
  | cons c cs ih =>
    obtain ⟨w, hw⟩ := h c
    obtain ⟨ws, hws⟩ := ih
    exact ⟨w ++ ws, .cons hw hws⟩

end Spells

/-! ## Reading -/

theorem not_surrogate (c : Char) :
    isLowSurrogate c.toNat = false ∧ isHighSurrogate c.toNat = false := by
  have hvalid : c.toNat < 0xD800 ∨ 0xDFFF < c.toNat ∧ c.toNat < 0x110000 := c.valid
  simp only [isLowSurrogate, isHighSurrogate, Bool.and_eq_false_iff, decide_eq_false_iff_not,
    Nat.not_le]
  omega

theorem readEscape_letter {l c : Char} (h : simpleEscape l = some c) (rest : List Char) :
    readEscape (l :: rest) = some (c, rest) := by
  unfold readEscape
  split
  · next heq =>
    obtain ⟨rfl, -⟩ := List.cons.inj heq
    cases h
  · next heq =>
    obtain ⟨rfl, rfl⟩ := List.cons.inj heq
    rw [h, Option.map_some]
  · next heq => cases heq

theorem readEscape_code {p q r s c : Char} (h : hexNumber p q r s = some c.toNat)
    (rest : List Char) : readEscape ('u' :: p :: q :: r :: s :: rest) = some (c, rest) := by
  obtain ⟨hlow, hhigh⟩ := not_surrogate c
  simp only [readEscape, h, hlow, hhigh, Bool.false_eq_true, if_false, Char.ofNat_toNat]

theorem readBody_escape_cons {c : Char} {cs rest : List Char}
    (h : readEscape cs = some (c, rest)) :
    readBody ('\\' :: cs) = (readBody rest).map fun (body, after) => (c :: body, after) := by
  rw [readBody, if_neg (by decide), if_pos rfl]
  split
  · next d rest' heq =>
    rw [h] at heq
    cases heq
    rfl
  · next heq =>
    rw [h] at heq
    cases heq

/-- **A character is read back, whichever way it is spelled.** -/
theorem readBody_append {c : Char} {w : List Char} (h : CharSpelling c w) (rest : List Char) :
    readBody (w ++ rest) = (readBody rest).map fun (body, after) => (c :: body, after) := by
  cases h with
  | plain hquote hescape hcontrol =>
    rw [List.singleton_append, readBody, if_neg hquote, if_neg hescape,
      if_neg (Nat.not_lt.mpr hcontrol)]
  | letter h => exact readBody_escape_cons (readEscape_letter h rest)
  | code h => exact readBody_escape_cons (readEscape_code h rest)

/-- A text is read back if each of its characters is, in the way it is written. -/
theorem readBody_of_forall {R : Char → List Char → Prop}
    (hR : ∀ {c w}, R c w → ∀ rest, readBody (w ++ rest)
      = (readBody rest).map fun (body, after) => (c :: body, after))
    {cs ws : List Char} (h : Spells R cs ws) (rest : List Char) :
    readBody (ws ++ '"' :: rest) = some (cs, rest) := by
  induction h with
  | nil => rw [List.nil_append, readBody, if_pos rfl]
  | cons hc _ ih => rw [List.append_assoc, hR hc, ih, Option.map_some]

/-- **A text is read back, however it is spelled.** -/
theorem readBody_of_spells {cs ws : List Char} (h : Spells CharSpelling cs ws) (rest : List Char) :
    readBody (ws ++ '"' :: rest) = some (cs, rest) :=
  readBody_of_forall readBody_append h rest

theorem unescape?_of_spells {cs ws : List Char} (h : Spells CharSpelling cs ws) :
    unescape? ws = some cs := by
  rw [unescape?, readBody_of_spells h]

/-- Only the empty text is read as an empty one. -/
theorem ne_nil_of_unescape? {ws cs : List Char} (hne : ws ≠ []) (h : unescape? ws = some cs) :
    cs ≠ [] := by
  obtain ⟨c, ws, rfl⟩ := List.exists_cons_of_ne_nil hne
  rintro rfl
  rw [unescape?] at h
  split at h
  · next decoded hbody =>
    obtain rfl := Option.some.inj h
    rw [List.cons_append, readBody] at hbody
    split at hbody
    · -- the closing mark would have to be the first character, but there is another one behind
      simp at hbody
    · split at hbody
      · split at hbody
        · simp at hbody
        · cases hbody
      · split at hbody
        · cases hbody
        · simp at hbody
  · cases h

/-! ## Writing -/

theorem hexNumber_hexDigit {p q r s : Nat} (hp : p < 16) (hq : q < 16) (hr : r < 16)
    (hs : s < 16) :
    hexNumber (hexDigit p) (hexDigit q) (hexDigit r) (hexDigit s)
      = some (((p * 16 + q) * 16 + r) * 16 + s) := by
  simp only [hexNumber, hexValue_hexDigit hp, hexValue_hexDigit hq, hexValue_hexDigit hr,
    hexValue_hexDigit hs, Option.bind_eq_bind, Option.bind_some]

theorem charSpelling_escapeChar (c : Char) : CharSpelling c (escapeChar c) := by
  unfold escapeChar
  split
  case h_8 hquote hescape _ _ _ _ _ =>
    split
    · next hcontrol =>
      have hcode := hexNumber_hexDigit (p := 0) (q := 0) (r := c.toNat / 16) (s := c.toNat % 16)
        (by decide) (by decide) (by omega) (by omega)
      have hvalue : ((0 * 16 + 0) * 16 + c.toNat / 16) * 16 + c.toNat % 16 = c.toNat := by omega
      rw [hvalue] at hcode
      exact .code hcode
    · next hcontrol => exact .plain hquote hescape (Nat.not_lt.mp hcontrol)
  all_goals exact .letter rfl

/-- What is written is a spelling. -/
theorem spells_escape (cs : List Char) : Spells CharSpelling cs (escape cs) := by
  induction cs with
  | nil => exact .nil
  | cons c cs ih => exact .cons (charSpelling_escapeChar c) ih

/-! ## Controls -/

theorem le_of_hexValue {c : Char} {n : Nat} (h : hexValue c = some n) : 0x20 ≤ c.toNat := by
  simp only [hexValue, Bool.and_eq_true, decide_eq_true_eq] at h
  split at h
  · omega
  · split at h
    · omega
    · split at h
      · omega
      · cases h

theorem le_of_simpleEscape {c l : Char} (h : simpleEscape l = some c) : 0x20 ≤ l.toNat := by
  unfold simpleEscape at h
  split at h
  case h_9 => cases h
  all_goals decide

theorem hexValue_of_hexNumber {p q r s : Char} {n : Nat} (h : hexNumber p q r s = some n) :
    ∀ d ∈ [p, q, r, s], ∃ m, hexValue d = some m := by
  simp only [hexNumber, Option.bind_eq_bind, Option.bind_eq_some_iff] at h
  obtain ⟨a, ha, b, hb, c, hc, d, hd, -⟩ := h
  simp [ha, hb, hc, hd]

/-- No spelling has a control in it. -/
theorem CharSpelling.le_of_mem {c d : Char} {w : List Char} (h : CharSpelling c w) (hd : d ∈ w) :
    0x20 ≤ d.toNat := by
  cases h with
  | plain _ _ hcontrol => rwa [List.mem_singleton.mp hd]
  | letter h =>
    rcases List.mem_cons.mp hd with rfl | hd
    · decide
    · rw [List.mem_singleton.mp hd]
      exact le_of_simpleEscape h
  | code h =>
    rcases List.mem_cons.mp hd with rfl | hd
    · decide
    rcases List.mem_cons.mp hd with rfl | hd
    · decide
    · obtain ⟨m, hm⟩ := hexValue_of_hexNumber h d hd
      exact le_of_hexValue hm

theorem le_of_mem_quote {s : String} {d : Char} (hd : d ∈ quote s) : 0x20 ≤ d.toNat := by
  rw [quote, List.cons_append, List.mem_cons, List.mem_append, List.mem_singleton] at hd
  rcases hd with rfl | hd | rfl
  · decide
  · exact (spells_escape _).forall_mem (fun _ _ hw _ => hw.le_of_mem) d hd
  · decide

end CheckScript.Json
