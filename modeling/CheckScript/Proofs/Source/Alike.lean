import CheckScript.Proofs.Source.Blocks
import CheckScript.Proofs.Source.Grouping
import CheckScript.Proofs.Source.Lines
import Mathlib.Order.Monotone.Basic

/-!
# Trees of one shape

Two trees are alike if they have one shape and corresponding lines are related. Grouping makes alike
trees of related lines whose levels are ordered alike (`group_alike`): it only ever asks which of
two levels is the smaller one, and never how small it is.
-/

namespace CheckScript

/-! ## Alike trees -/

/-- The blocks have one shape, and their lines are related one by one. -/
inductive Block.Alike (R : Line → Line → Prop) : Block → Block → Prop
  | nil : Block.Alike R [] []
  | line {l m : Line} {xs ys : Block} :
    R l m → Block.Alike R xs ys → Block.Alike R (.line l :: xs) (.line m :: ys)
  | block {inner inner' xs ys : Block} :
    Block.Alike R inner inner' → Block.Alike R xs ys →
    Block.Alike R (.block inner :: xs) (.block inner' :: ys)

namespace Block.Alike

variable {R S : Line → Line → Prop} {xs ys : Block}

theorem mono (h : Block.Alike R xs ys) (hRS : ∀ l m, R l m → S l m) : Block.Alike S xs ys := by
  induction h with
  | nil => exact .nil
  | line hl _ ih => exact .line (hRS _ _ hl) ih
  | block _ _ ihInner ih => exact .block ihInner ih

theorem lines (h : Block.Alike R xs ys) :
    List.Forall₂ R (Block.lines xs) (Block.lines ys) := by
  induction h with
  | nil => simp
  | line hl _ ih => simpa using ⟨hl, ih⟩
  | block _ _ ihInner ih =>
    simp only [Block.lines_cons, Node.lines_block]
    exact List.rel_append ihInner ih

end Block.Alike

/-! ## Levels that are ordered alike -/

/-- Corresponding lines of the two lists stand to each other alike: of any two, the same one is the
shallower. -/
def LevelsAlike (ls ms : List Line) : Prop :=
  ∀ p ∈ ls.zip ms, ∀ q ∈ ls.zip ms,
    compare p.1.indent q.1.indent = compare p.2.indent q.2.indent

instance (ls ms : List Line) : Decidable (LevelsAlike ls ms) :=
  inferInstanceAs (Decidable (∀ p ∈ ls.zip ms, ∀ q ∈ ls.zip ms,
    compare p.1.indent q.1.indent = compare p.2.indent q.2.indent))

theorem compare_eq_compare_iff {a b c d : Nat} :
    compare a b = compare c d ↔ (a < b ↔ c < d) ∧ (b < a ↔ d < c) := by
  rcases Nat.lt_trichotomy a b with h | h | h <;> rcases Nat.lt_trichotomy c d with h' | h' | h'
  all_goals
    simp only [Nat.compare_eq_ite_lt]
    grind

/-- Levels that both grow with the same numbers are ordered alike. -/
theorem levelsAlike_of_strictMono {f g : Nat → Nat} (hf : StrictMono f) (hg : StrictMono g)
    {ls ms : List Line}
    (h : List.Forall₂ (fun l m => ∃ n, l.indent = f n ∧ m.indent = g n) ls ms) :
    LevelsAlike ls ms := by
  rintro ⟨l, m⟩ hp ⟨l', m'⟩ hq
  obtain ⟨n, hl, hm⟩ := List.forall₂_zip h hp
  obtain ⟨n', hl', hm'⟩ := List.forall₂_zip h hq
  rw [compare_eq_compare_iff, hl, hm, hl', hm', hf.lt_iff_lt, hf.lt_iff_lt, hg.lt_iff_lt,
    hg.lt_iff_lt]
  exact ⟨Iff.rfl, Iff.rfl⟩

theorem levelsAlike_of_sameUpToSpan {ls ms : List Line}
    (h : List.Forall₂ Line.SameUpToSpan ls ms) : LevelsAlike ls ms :=
  levelsAlike_of_strictMono strictMono_id strictMono_id
    (h.imp fun l _ hlm => ⟨l.indent, rfl, hlm.2.symm⟩)

/-! ## Grouping -/

theorem dropWhile_congr {α : Type} {p q : α → Bool} {xs : List α} (h : ∀ x ∈ xs, p x = q x) :
    xs.dropWhile p = xs.dropWhile q := by
  induction xs with
  | nil => rfl
  | cons x xs ih =>
    rw [List.dropWhile_cons, List.dropWhile_cons, h x List.mem_cons_self,
      ih fun y hy => h y (List.mem_cons_of_mem _ hy)]

/-- Pairs of corresponding lines, in two blocks whose own levels fit in with them. -/
theorem group_alike_pairs {R : Line → Line → Prop} (level level' : Nat)
    (pairs : List (Line × Line)) (hR : ∀ p ∈ pairs, R p.1 p.2)
    (horder : ∀ p ∈ pairs, ∀ q ∈ pairs,
      compare p.1.indent q.1.indent = compare p.2.indent q.2.indent)
    (hlevel : ∀ p ∈ pairs, compare level p.1.indent = compare level' p.2.indent) :
    Block.Alike R (group level (pairs.map Prod.fst)).nodes
      (group level' (pairs.map Prod.snd)).nodes := by
  match pairs with
  | [] =>
    rw [List.map_nil, List.map_nil, group_nil, group_nil]
    exact .nil
  | (l, m) :: rest =>
    have hrest : ∀ q ∈ rest, q ∈ (l, m) :: rest := fun q hq => List.mem_cons_of_mem _ hq
    have hhead := compare_eq_compare_iff.mp (hlevel (l, m) List.mem_cons_self)
    have hinner := group_alike_pairs l.indent m.indent rest (fun q hq => hR q (hrest q hq))
      (fun p hp q hq => horder p (hrest p hp) q (hrest q hq))
      (fun q hq => horder (l, m) List.mem_cons_self q (hrest q hq))
    rw [List.map_cons, List.map_cons]
    rcases Nat.lt_trichotomy l.indent level with hlt | heq | hgt
    · rw [nodes_group_of_lt hlt, nodes_group_of_lt (hhead.2.mp hlt)]
      exact .nil
    · obtain rfl : m.indent = level' := by
        have h1 := hhead.1
        have h2 := hhead.2
        simp only at h1 h2
        omega
      subst heq
      rw [nodes_group_of_eq, nodes_group_of_eq]
      exact .line (hR (l, m) List.mem_cons_self) hinner
    · rw [nodes_group_of_gt hgt, nodes_group_of_gt (hhead.1.mp hgt)]
      refine .block (.line (hR (l, m) List.mem_cons_self) hinner) ?_
      -- what the two inner blocks leave are the pairs from one place on
      have hsame : ∀ q ∈ rest,
          (atLeast l.indent ∘ Prod.fst) q = (atLeast m.indent ∘ Prod.snd) q := by
        intro q hq
        have h := compare_eq_compare_iff.mp (horder (l, m) List.mem_cons_self q (hrest q hq))
        simp only [atLeast, Function.comp, decide_eq_decide]
        have h2 := h.2
        simp only at h2
        omega
      rw [left_group, left_group, List.dropWhile_map, List.dropWhile_map, ← dropWhile_congr hsame]
      have hsub : ∀ q ∈ rest.dropWhile (atLeast l.indent ∘ Prod.fst), q ∈ (l, m) :: rest :=
        fun q hq => hrest q ((List.dropWhile_suffix _).subset hq)
      exact group_alike_pairs level level' _ (fun q hq => hR q (hsub q hq))
        (fun p hp q hq => horder p (hsub p hp) q (hsub q hq)) (fun q hq => hlevel q (hsub q hq))
termination_by pairs.length
decreasing_by
  · simp
  · have := (List.dropWhile_sublist (atLeast l.indent ∘ Prod.fst) (l := rest)).length_le
    simp only [List.length_cons]
    omega

variable {R : Line → Line → Prop} {ls ms : List Line}

theorem noneShallower_congr (h : List.Forall₂ R ls ms) (hlevels : LevelsAlike ls ms) :
    NoneShallower ls ↔ NoneShallower ms := by
  cases h with
  | nil => exact Iff.rfl
  | @cons l m ls ms hlm hrest =>
    have hlen := hrest.length_eq
    have hhead : ∀ q ∈ (l, m) :: ls.zip ms, l.indent ≤ q.1.indent ↔ m.indent ≤ q.2.indent := by
      intro q hq
      have h := (compare_eq_compare_iff.mp (hlevels (l, m) List.mem_cons_self q hq)).2
      simp only at h
      omega
    have hfst : l :: ls = ((l, m) :: ls.zip ms).map Prod.fst := by
      rw [List.map_cons, List.map_fst_zip hlen.le]
    have hsnd : m :: ms = ((l, m) :: ls.zip ms).map Prod.snd := by
      rw [List.map_cons, List.map_snd_zip hlen.ge]
    unfold NoneShallower rootLevel
    simp only
    rw [hfst, hsnd, List.forall_mem_map, List.forall_mem_map]
    exact forall₂_congr hhead

/-- **Grouping asks only which of two lines is the shallower.** -/
theorem group_alike (h : List.Forall₂ R ls ms) (hlevels : LevelsAlike ls ms) :
    Block.Alike R (group (rootLevel ls) ls).nodes (group (rootLevel ms) ms).nodes := by
  have hlen := h.length_eq
  have hgroup := group_alike_pairs (rootLevel ls) (rootLevel ms) (ls.zip ms)
    (fun p hp => List.forall₂_zip h hp) hlevels
  rw [List.map_fst_zip hlen.le, List.map_snd_zip hlen.ge] at hgroup
  refine hgroup fun p hp => ?_
  cases h with
  | nil => simp at hp
  | cons _ _ => exact hlevels _ List.mem_cons_self p hp

end CheckScript
