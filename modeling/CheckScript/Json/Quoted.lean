import CheckScript.Text.Digit

/-!
# JSON strings

Writing: a quotation mark, a reverse solidus and the characters below U+0020 are escaped, and
nothing else; five controls have an escape of their own, the others are written `\u00` and two
lower-case digits.

Reading: `readBody` reads from behind the opening quotation mark to behind the closing one. Controls
must be escaped, and a `\u` escape of half a surrogate pair must be followed by one of the other
half. What is left is shorter than what was given (`length_of_readBody`), so readers that go on with
it need no fuel.
-/

namespace CheckScript.Json

open Text

/-! ## Writing -/

/-- A character as it stands between quotation marks. -/
def escapeChar (c : Char) : List Char :=
  match c with
  | '"' => ['\\', '"']
  | '\\' => ['\\', '\\']
  | '\n' => ['\\', 'n']
  | '\r' => ['\\', 'r']
  | '\t' => ['\\', 't']
  | '\x08' => ['\\', 'b']
  | '\x0c' => ['\\', 'f']
  | c =>
    if c.toNat < 0x20 then
      ['\\', 'u', '0', '0', hexDigit (c.toNat / 16), hexDigit (c.toNat % 16)]
    else [c]

/-- A text as it stands between quotation marks. -/
def escape (cs : List Char) : List Char := cs.flatMap escapeChar

/-- A text between quotation marks. -/
def quote (s : String) : List Char := '"' :: escape s.toList ++ ['"']

/-! ## Reading -/

/-- The number that four hexadecimal digits write. -/
def hexNumber (a b c d : Char) : Option Nat := do
  let a ← hexValue a
  let b ← hexValue b
  let c ← hexValue c
  let d ← hexValue d
  some (((a * 16 + b) * 16 + c) * 16 + d)

/-- The first half of a surrogate pair. -/
def isHighSurrogate (n : Nat) : Bool := 0xD800 ≤ n && n ≤ 0xDBFF

/-- The second half of a surrogate pair. -/
def isLowSurrogate (n : Nat) : Bool := 0xDC00 ≤ n && n ≤ 0xDFFF

/-- The character of a surrogate pair. -/
def combineSurrogates (high low : Nat) : Char :=
  Char.ofNat (0x10000 + (high - 0xD800) * 0x400 + (low - 0xDC00))

/-- The character that a one-letter escape stands for. -/
def simpleEscape (c : Char) : Option Char :=
  match c with
  | '"' => some '"'
  | '\\' => some '\\'
  | '/' => some '/'
  | 'b' => some '\x08'
  | 'f' => some '\x0c'
  | 'n' => some '\n'
  | 'r' => some '\r'
  | 't' => some '\t'
  | _ => none

/-- Reads an escape from behind its reverse solidus: the character, and what follows. -/
def readEscape : List Char → Option (Char × List Char)
  | 'u' :: a :: b :: c :: d :: rest =>
    match hexNumber a b c d with
    | none => none
    | some n =>
      if isLowSurrogate n then none
      else if isHighSurrogate n then
        match rest with
        | '\\' :: 'u' :: e :: f :: g :: h :: rest =>
          match hexNumber e f g h with
          | none => none
          | some m => if isLowSurrogate m then some (combineSurrogates n m, rest) else none
        | _ => none
      else some (Char.ofNat n, rest)
  | c :: rest => (simpleEscape c).map (·, rest)
  | [] => none

theorem length_of_readEscape {cs : List Char} {c : Char} {rest : List Char}
    (h : readEscape cs = some (c, rest)) : rest.length < cs.length := by
  unfold readEscape at h
  repeat' split at h
  all_goals
    first
    | simp at h; done
    | simp only [Option.some.injEq, Prod.mk.injEq] at h
      obtain ⟨-, rfl⟩ := h
      simp only [List.length_cons]
      omega
    | simp only [Option.map_eq_some_iff, Prod.mk.injEq] at h
      obtain ⟨_, _, _, rfl⟩ := h
      simp

/-- Reads a string from behind its opening quotation mark: its text, and what follows the closing
one. -/
def readBody : List Char → Option (List Char × List Char)
  | [] => none
  | c :: cs =>
    if c = '"' then some ([], cs)
    else if c = '\\' then
      match _h : readEscape cs with
      | some (d, rest) => (readBody rest).map fun (body, after) => (d :: body, after)
      | none => none
    else if c.toNat < 0x20 then none
    else (readBody cs).map fun (body, after) => (c :: body, after)
termination_by cs => cs.length
decreasing_by
  · have := length_of_readEscape _h
    simp only [List.length_cons]
    omega
  · simp

theorem length_of_readBody {cs body after : List Char} (h : readBody cs = some (body, after)) :
    after.length < cs.length := by
  fun_induction readBody cs generalizing body after with
  | case1 => simp at h
  | case2 => simp at h; simp [h.2]
  | case3 cs d rest hd _ ih =>
    have hlt := length_of_readEscape hd
    obtain ⟨⟨t, a⟩, ht, heq⟩ := Option.map_eq_some_iff.mp h
    simp only [Prod.mk.injEq] at heq
    have := ih ht
    simp only [List.length_cons, ← heq.2]
    omega
  | case4 => simp at h
  | case5 => simp at h
  | case6 c cs _ _ _ ih =>
    obtain ⟨⟨t, a⟩, ht, heq⟩ := Option.map_eq_some_iff.mp h
    simp only [Prod.mk.injEq] at heq
    have := ih ht
    simp only [List.length_cons, ← heq.2]
    omega

/-- Decodes a text that stands between quotation marks, all of it. -/
def unescape? (body : List Char) : Option (List Char) :=
  match readBody (body ++ ['"']) with
  | some (decoded, []) => some decoded
  | _ => none

end CheckScript.Json
