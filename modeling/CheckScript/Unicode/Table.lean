import CheckScript.Text.Blank
import CheckScript.Text.Digit
import CheckScript.Text.Split
import CheckScript.Unicode.CharSet

/-!
# Tables of characters

A table is written as its ranges in increasing order, in hexadecimal and with blanks between them:
`30-39 41-5A 61-7A AA`. No two of them touch.
-/

namespace CheckScript.Unicode.CharSet

open Text

/-- The two flips of a range. -/
def flipsOfRange (written : List Char) : List Nat :=
  let (first, last) := (breakOn? ['-'] written).getD (written, written)
  match hexNat? first, hexNat? last with
  | some m, some n => [m, n + 1]
  | _, _ => []

/-- Whether the list increases, all of it above a bound. -/
def increasesFrom (bound : Nat) : List Nat → Bool
  | [] => true
  | n :: ns => bound ≤ n && increasesFrom (n + 1) ns

theorem pairwise_of_increasesFrom : ∀ {bound : Nat} {ns : List Nat},
    increasesFrom bound ns = true → ns.Pairwise (· < ·) ∧ ∀ n ∈ ns, bound ≤ n
  | _, [], _ => by simp
  | bound, n :: ns, h => by
    simp only [increasesFrom, Bool.and_eq_true, decide_eq_true_eq] at h
    obtain ⟨hns, hall⟩ := pairwise_of_increasesFrom h.2
    refine ⟨List.pairwise_cons.2 ⟨fun m hm => hall m hm, hns⟩, fun m hm => ?_⟩
    rcases List.mem_cons.1 hm with rfl | hm
    · exact h.1
    · exact Nat.le_trans (Nat.le_succ_of_le h.1) (hall m hm)

/-- The set of a written table; a text that is no table writes the empty set. -/
def ofText (table : String) : CharSet :=
  let flips := (words table.toList).flatMap flipsOfRange
  if h : increasesFrom 0 flips = true then ⟨flips, (pairwise_of_increasesFrom h).1⟩ else empty

example : (ofText "30-39 41").flips = [0x30, 0x3A, 0x41, 0x42] := by decide +kernel

end CheckScript.Unicode.CharSet
