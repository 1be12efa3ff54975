import Mathlib.Data.String.Basic

/-!
# The order of texts and of their bytes

Texts are ordered by their code points. UTF-8 is made so that this is also the order of their bytes
(`lt_iff_bytes_lt`): the first byte of a character says how many more belong to it, and more of them
make a greater first byte; then the digits of the code point follow, the highest ones first. So two
different characters are told apart, and ordered, by the first byte in which they differ
(`encode_lt_encode`).
-/

namespace CheckScript.Text

/-- The bytes of a text in UTF-8. -/
def bytes (s : String) : List UInt8 := s.toUTF8.data.toList

theorem bytes_eq_flatMap (s : String) : bytes s = s.toList.flatMap String.utf8EncodeChar := by
  show s.toByteArray.data.toList = _
  rw [← String.utf8Encode_toList, List.utf8Encode, List.toList_data_toByteArray]

/-! ## The bytes of a character -/

/-- The number of bytes that follow the first byte of a code point. -/
def following (n : Nat) : Nat :=
  if n ≤ 0x7f then 0 else if n ≤ 0x7ff then 1 else if n ≤ 0xffff then 2 else 3

/-- What the first byte holds besides the highest digits. -/
def mark : Nat → Nat
  | 0 => 0
  | 1 => 0xc0
  | 2 => 0xe0
  | _ => 0xf0

/-- The first byte of a code point. -/
def leading (n : Nat) : Nat := n / 64 ^ following n + mark (following n)

/-- The lowest digits of a code point, six bits in each byte and the highest ones first. -/
def trailing (n : Nat) : Nat → List UInt8
  | 0 => []
  | k + 1 => UInt8.ofNat (n / 64 ^ k % 64 + 0x80) :: trailing n k

theorem toNat_lt (c : Char) : c.toNat < 0x110000 := by
  rcases c.valid with h | h
  · exact Nat.lt_trans h (by decide)
  · exact h.2

theorem leading_lt {n : Nat} (h : n < 0x110000) : leading n < 256 := by
  unfold leading following
  split_ifs <;> simp only [mark] <;> omega

/-- **A character is its first byte and its lowest digits.** -/
theorem utf8EncodeChar_eq (c : Char) : String.utf8EncodeChar c
    = UInt8.ofNat (leading c.toNat) :: trailing c.toNat (following c.toNat) := by
  have hlt := toNat_lt c
  have hval : c.val.toNat = c.toNat := rfl
  unfold String.utf8EncodeChar leading following
  simp only [hval]
  split_ifs
  · simp [mark, trailing]
  · have h : c.toNat / 64 % 0x20 = c.toNat / 64 := Nat.mod_eq_of_lt (by omega)
    simp [mark, trailing, h]
  · have h : c.toNat / 4096 % 0x10 = c.toNat / 4096 := Nat.mod_eq_of_lt (by omega)
    simp [mark, trailing, h]
  · have h : c.toNat / 262144 % 0x08 = c.toNat / 262144 := Nat.mod_eq_of_lt (by omega)
    simp [mark, trailing, h]

/-! ## Their order -/

theorem ofNat_lt_ofNat {m n : Nat} (h : m < n) (hn : n < 256) : UInt8.ofNat m < UInt8.ofNat n := by
  rw [UInt8.lt_iff_toNat_lt, UInt8.toNat_ofNat_of_lt' (by simpa using h.trans hn),
    UInt8.toNat_ofNat_of_lt' (by simpa using hn)]
  exact h

theorem following_mono {m n : Nat} (h : m < n) : following m ≤ following n := by
  unfold following
  split_ifs <;> omega

/-- More bytes make a greater first byte. -/
theorem leading_lt_of_following_lt {m n : Nat} (hm : m < 0x110000)
    (h : following m < following n) : leading m < leading n := by
  unfold leading
  unfold following at *
  split_ifs at * <;> simp only [mark] <;> omega

/-- A smaller code point has a smaller first byte, or else the same one and smaller digits. -/
theorem leading_lt_or {m n : Nat} (h : m < n) (hn : n < 0x110000) : leading m < leading n
    ∨ following m = following n ∧ m / 64 ^ following m = n / 64 ^ following m := by
  rcases Nat.lt_or_eq_of_le (following_mono h) with hlt | heq
  · exact .inl (leading_lt_of_following_lt (h.trans hn) hlt)
  · have hle : m / 64 ^ following m ≤ n / 64 ^ following m := Nat.div_le_div_right h.le
    rw [leading, leading, ← heq]
    rcases Nat.lt_or_eq_of_le hle with hlt | hhigh
    · exact .inl (Nat.add_lt_add_right hlt _)
    · exact .inr ⟨rfl, hhigh⟩

/-- Digits that follow the same higher ones are ordered as the numbers are. -/
theorem trailing_lt_trailing {m n k : Nat} (h : m < n) (hhigh : m / 64 ^ k = n / 64 ^ k)
    (xs ys : List UInt8) : trailing m k ++ xs < trailing n k ++ ys := by
  induction k with
  | zero =>
    rw [pow_zero, Nat.div_one, Nat.div_one] at hhigh
    omega
  | succ k ih =>
    rw [pow_succ, ← Nat.div_div_eq_div_mul, ← Nat.div_div_eq_div_mul] at hhigh
    have hle : m / 64 ^ k ≤ n / 64 ^ k := Nat.div_le_div_right h.le
    rw [trailing, trailing, List.cons_append, List.cons_append, List.cons_lt_cons_iff]
    rcases Nat.lt_or_eq_of_le hle with hlt | heq
    · exact .inl (ofNat_lt_ofNat (by omega) (by omega))
    · exact .inr ⟨by rw [heq], ih heq⟩

/-- **The first byte in which two characters differ orders them.** -/
theorem encode_lt_encode {c d : Char} (h : c < d) (xs ys : List UInt8) :
    String.utf8EncodeChar c ++ xs < String.utf8EncodeChar d ++ ys := by
  rw [utf8EncodeChar_eq, utf8EncodeChar_eq, List.cons_append, List.cons_append,
    List.cons_lt_cons_iff]
  have hcd : c.toNat < d.toNat := h
  rcases leading_lt_or hcd (toNat_lt d) with hlt | ⟨hfollowing, hhigh⟩
  · exact .inl (ofNat_lt_ofNat hlt (leading_lt (toNat_lt d)))
  · refine .inr ⟨?_, ?_⟩
    · rw [leading, leading, ← hfollowing, hhigh]
    · rw [← hfollowing]
      exact trailing_lt_trailing hcd hhigh xs ys

theorem flatMap_lt_flatMap {cs ds : List Char} (h : cs < ds) :
    cs.flatMap String.utf8EncodeChar < ds.flatMap String.utf8EncodeChar := by
  induction h with
  | nil =>
    rw [List.flatMap_nil, List.flatMap_cons, utf8EncodeChar_eq]
    exact List.nil_lt_cons _ _
  | rel h => exact encode_lt_encode h _ _
  | cons _ ih =>
    rw [List.flatMap_cons, List.flatMap_cons]
    exact List.append_left_lt ih

theorem bytes_lt_bytes {s t : String} (h : s < t) : bytes s < bytes t := by
  rw [bytes_eq_flatMap, bytes_eq_flatMap]
  exact flatMap_lt_flatMap (String.lt_iff_toList_lt.mp h)

/-- **Texts are ordered as their bytes are.** -/
theorem lt_iff_bytes_lt {s t : String} : s < t ↔ bytes s < bytes t := by
  refine ⟨bytes_lt_bytes, fun h => ?_⟩
  rcases Std.lt_trichotomy s t with hlt | rfl | hgt
  · exact hlt
  · exact absurd h (List.lt_irrefl _)
  · exact absurd h (List.lt_asymm (bytes_lt_bytes hgt))

end CheckScript.Text
