/-!
# Sets of characters

A set of characters is the increasing list of the code points at which membership flips: the first
of them is the first member, the next one the first code point behind it that is no member, and so
on. A set of a few ranges is a short list, however many characters it has.

## Main definitions

* `CharSet.mem`: membership.
* `CharSet.combine`: any combination of two sets that leaves out what is in neither; union,
  intersection and the two differences are cases of it.
* `CharSet.complement`: what is not in a set.

**Membership goes through every one of them** (`mem_combine`, `mem_complement`).
-/

namespace CheckScript.Unicode

/-- A set of characters, by the code points at which membership flips. -/
structure CharSet where
  flips : List Nat
  increasing : flips.Pairwise (· < ·)
  deriving DecidableEq

namespace CharSet

/-! ## Membership -/

/-- Whether the code point `n` is in, where membership is `inside` before the first flip. -/
def holds (n : Nat) (inside : Bool) : List Nat → Bool
  | [] => inside
  | x :: xs => if n < x then inside else holds n (!inside) xs

/-- Whether a character is in the set. -/
def mem (set : CharSet) (c : Char) : Bool := holds c.toNat false set.flips

/-- The set without characters. -/
def empty : CharSet := ⟨[], List.Pairwise.nil⟩

/-- The set of all characters. -/
def all : CharSet := ⟨[0], List.pairwise_singleton ..⟩

theorem pairwise_pair {a b : Nat} (h : a < b) : [a, b].Pairwise (· < ·) :=
  .cons (fun _ hb => List.mem_singleton.mp hb ▸ h) (.cons nofun .nil)

/-- The characters from code point `first` to code point `last`. -/
def range (first last : Nat) : CharSet :=
  if h : first ≤ last then ⟨[first, last + 1], pairwise_pair (Nat.lt_succ_of_le h)⟩ else empty

/-- The set of one character. -/
def single (c : Char) : CharSet := range c.toNat c.toNat

/-! ## Combinations -/

/-- Flips at `x` if membership changes there. -/
def flipAt (x : Nat) (before after : Bool) (later : List Nat) : List Nat :=
  if before = after then later else x :: later

/-- The flips of the combination of two sets of which `a` and `b` hold before their first flips. -/
def sweep (f : Bool → Bool → Bool) (a b : Bool) : List Nat → List Nat → List Nat
  | [], [] => []
  | x :: xs, [] => flipAt x (f a b) (f (!a) b) (sweep f (!a) b xs [])
  | [], y :: ys => flipAt y (f a b) (f a (!b)) (sweep f a (!b) [] ys)
  | x :: xs, y :: ys =>
    if x < y then flipAt x (f a b) (f (!a) b) (sweep f (!a) b xs (y :: ys))
    else if y < x then flipAt y (f a b) (f a (!b)) (sweep f a (!b) (x :: xs) ys)
    else flipAt x (f a b) (f (!a) (!b)) (sweep f (!a) (!b) xs ys)

theorem mem_flipAt {x n : Nat} {before after : Bool} {later : List Nat}
    (h : n ∈ flipAt x before after later) : n = x ∨ n ∈ later := by
  unfold flipAt at h
  split at h
  · exact .inr h
  · simpa using h

/-- Every flip of a combination is a flip of one of the two sets. -/
theorem mem_sweep {f : Bool → Bool → Bool} {n : Nat} : ∀ {a b : Bool} {xs ys : List Nat},
    n ∈ sweep f a b xs ys → n ∈ xs ∨ n ∈ ys := by
  intro a b xs ys h
  fun_induction sweep f a b xs ys with
  | case1 => simp at h
  | case2 _ _ x xs ih => rcases mem_flipAt h with h | h <;> grind
  | case3 _ _ y ys ih => rcases mem_flipAt h with h | h <;> grind
  | case4 _ _ x xs y ys _ ih => rcases mem_flipAt h with h | h <;> grind
  | case5 _ _ x xs y ys _ _ ih => rcases mem_flipAt h with h | h <;> grind
  | case6 _ _ x xs y ys _ _ ih => rcases mem_flipAt h with h | h <;> grind

theorem pairwise_flipAt {x : Nat} {before after : Bool} {later : List Nat}
    (h : later.Pairwise (· < ·)) (hx : ∀ n ∈ later, x < n) :
    (flipAt x before after later).Pairwise (· < ·) := by
  unfold flipAt
  split
  · exact h
  · exact List.pairwise_cons.2 ⟨hx, h⟩

theorem pairwise_sweep {f : Bool → Bool → Bool} : ∀ {a b : Bool} {xs ys : List Nat},
    xs.Pairwise (· < ·) → ys.Pairwise (· < ·) → (sweep f a b xs ys).Pairwise (· < ·) := by
  intro a b xs ys hx hy
  fun_induction sweep f a b xs ys with
  | case1 => exact List.Pairwise.nil
  | case2 _ _ x xs ih =>
    rw [List.pairwise_cons] at hx
    refine pairwise_flipAt (ih hx.2 hy) fun n hn => ?_
    rcases mem_sweep hn with h | h
    · exact hx.1 n h
    · simp at h
  | case3 _ _ y ys ih =>
    rw [List.pairwise_cons] at hy
    refine pairwise_flipAt (ih hx hy.2) fun n hn => ?_
    rcases mem_sweep hn with h | h
    · simp at h
    · exact hy.1 n h
  | case4 _ _ x xs y ys hlt ih =>
    have hx' := List.pairwise_cons.1 hx
    have hy' := List.pairwise_cons.1 hy
    refine pairwise_flipAt (ih hx'.2 hy) fun n hn => ?_
    rcases mem_sweep hn with h | h
    · exact hx'.1 n h
    · rcases List.mem_cons.1 h with rfl | h
      · exact hlt
      · exact Nat.lt_trans hlt (hy'.1 n h)
  | case5 _ _ x xs y ys _ hlt ih =>
    have hx' := List.pairwise_cons.1 hx
    have hy' := List.pairwise_cons.1 hy
    refine pairwise_flipAt (ih hx hy'.2) fun n hn => ?_
    rcases mem_sweep hn with h | h
    · rcases List.mem_cons.1 h with rfl | h
      · exact hlt
      · exact Nat.lt_trans hlt (hx'.1 n h)
    · exact hy'.1 n h
  | case6 _ _ x xs y ys h₁ h₂ ih =>
    have hx' := List.pairwise_cons.1 hx
    have hy' := List.pairwise_cons.1 hy
    refine pairwise_flipAt (ih hx'.2 hy'.2) fun n hn => ?_
    rcases mem_sweep hn with h | h
    · exact hx'.1 n h
    · have := hy'.1 n h
      omega

/-- Before every flip, membership is what it is before the first. -/
theorem holds_of_lt {n : Nat} {inside : Bool} {xs : List Nat} (h : ∀ x ∈ xs, n < x) :
    holds n inside xs = inside := by
  cases xs with
  | nil => rfl
  | cons x xs => simp [holds, h x]

theorem holds_flipAt {x n : Nat} {before after : Bool} {later : List Nat}
    (h : ∀ y ∈ later, x < y) :
    holds n before (flipAt x before after later)
      = if n < x then before else holds n after later := by
  unfold flipAt
  split
  · next heq =>
    subst heq
    split
    · next hn => exact holds_of_lt fun y hy => Nat.lt_trans hn (h y hy)
    · rfl
  · next hne =>
    have : after = !before := by cases before <;> cases after <;> simp_all
    subst this
    rfl

/-- **A combination holds what its function says of the two sets.** -/
theorem holds_sweep {f : Bool → Bool → Bool} {n : Nat} : ∀ {a b : Bool} {xs ys : List Nat},
    xs.Pairwise (· < ·) → ys.Pairwise (· < ·) →
    holds n (f a b) (sweep f a b xs ys) = f (holds n a xs) (holds n b ys) := by
  intro a b xs ys hx hy
  fun_induction sweep f a b xs ys with
  | case1 => rfl
  | case2 a b x xs ih =>
    have hx' := List.pairwise_cons.1 hx
    rw [holds_flipAt fun m hm => (mem_sweep hm).elim (hx'.1 m) (by simp), ih hx'.2 hy]
    simp only [holds]
    split <;> rfl
  | case3 a b y ys ih =>
    have hy' := List.pairwise_cons.1 hy
    rw [holds_flipAt fun m hm => (mem_sweep hm).elim (by simp) (hy'.1 m), ih hx hy'.2]
    simp only [holds]
    split <;> rfl
  | case4 a b x xs y ys hlt ih =>
    have hx' := List.pairwise_cons.1 hx
    have hy' := List.pairwise_cons.1 hy
    rw [holds_flipAt fun m hm => (mem_sweep hm).elim (hx'.1 m) fun h =>
      (List.mem_cons.1 h).elim (· ▸ hlt) fun h => Nat.lt_trans hlt (hy'.1 m h), ih hx'.2 hy]
    simp only [holds]
    split <;> split <;> first | rfl | omega
  | case5 a b x xs y ys _ hlt ih =>
    have hx' := List.pairwise_cons.1 hx
    have hy' := List.pairwise_cons.1 hy
    rw [holds_flipAt fun m hm => (mem_sweep hm).elim (fun h =>
      (List.mem_cons.1 h).elim (· ▸ hlt) fun h => Nat.lt_trans hlt (hx'.1 m h)) (hy'.1 m),
      ih hx hy'.2]
    simp only [holds]
    split <;> split <;> first | rfl | omega
  | case6 a b x xs y ys h₁ h₂ ih =>
    have hx' := List.pairwise_cons.1 hx
    have hy' := List.pairwise_cons.1 hy
    have hxy : x = y := by omega
    subst hxy
    rw [holds_flipAt fun m hm => (mem_sweep hm).elim (hx'.1 m) (hy'.1 m), ih hx'.2 hy'.2]
    simp only [holds]
    split <;> rfl

/-- The characters of which `f` holds, told whether they are in the one set and in the other. -/
def combine (f : Bool → Bool → Bool) (s t : CharSet) : CharSet :=
  ⟨sweep f false false s.flips t.flips, pairwise_sweep s.increasing t.increasing⟩

theorem mem_combine {f : Bool → Bool → Bool} (h : f false false = false) (s t : CharSet)
    (c : Char) : (combine f s t).mem c = f (s.mem c) (t.mem c) := by
  have := holds_sweep (f := f) (n := c.toNat) (a := false) (b := false) s.increasing t.increasing
  rwa [h] at this

/-- What is in one of two sets. -/
def union : CharSet → CharSet → CharSet := combine (· || ·)

/-- What is in both sets. -/
def inter : CharSet → CharSet → CharSet := combine (· && ·)

/-- What is in the first set and not in the second. -/
def diff : CharSet → CharSet → CharSet := combine (fun a b => a && !b)

/-- What is in exactly one of two sets. -/
def symmDiff : CharSet → CharSet → CharSet := combine Bool.xor

/-- What is not in the set. -/
def complement (set : CharSet) : CharSet := diff all set

theorem mem_complement (set : CharSet) (c : Char) : set.complement.mem c = !set.mem c := by
  rw [complement, diff, mem_combine rfl]
  simp [all, mem, holds]

theorem mem_union (s t : CharSet) (c : Char) : (union s t).mem c = (s.mem c || t.mem c) :=
  mem_combine rfl s t c

theorem mem_inter (s t : CharSet) (c : Char) : (inter s t).mem c = (s.mem c && t.mem c) :=
  mem_combine rfl s t c

theorem mem_range (first last : Nat) (c : Char) :
    (range first last).mem c = (decide (first ≤ c.toNat) && decide (c.toNat ≤ last)) := by
  unfold range
  split
  · simp only [mem, holds]
    split
    · next h => simp; omega
    · split
      · next h h' => simp; omega
      · next h h' => simp; omega
  · simp [empty, mem, holds]
    omega

/-- The union of a list of sets. -/
def unions (sets : List CharSet) : CharSet := sets.foldr union empty

/-- The ranges of a set, each by its first and its last character. No character is a surrogate, so
none of them starts or ends with one. -/
def ranges (set : CharSet) : List (Nat × Nat) := (pairs set.flips).filterMap cut
where
  /-- Flips two by two. -/
  pairs : List Nat → List (Nat × Nat)
    | first :: next :: flips => (first, next - 1) :: pairs flips
    | [first] => [(first, 0x10FFFF)]
    | [] => []
  /-- A range from its first to its last character, if there is one in it. -/
  cut (range : Nat × Nat) : Option (Nat × Nat) :=
    let first := if isSurrogate range.1 then 0xE000 else range.1
    let last := if isSurrogate range.2 then 0xD7FF else range.2
    if first ≤ last then some (first, last) else none
  /-- Whether a code point is a surrogate. -/
  isSurrogate (n : Nat) : Bool := 0xD800 ≤ n && n ≤ 0xDFFF

example : (range 0x10 0xD800).ranges = [(0x10, 0xD7FF)] := by decide

end CharSet

end CheckScript.Unicode
