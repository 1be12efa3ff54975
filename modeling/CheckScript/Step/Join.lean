import CheckScript.Step.Error

/-!
# Joining branches

A block that runs for each element of a list runs its branches side by side. They are joined in the
order in which they end: a branch that succeeded fills the slot of its element, the first one joined
that failed ends the join with its error, and at the end the filled slots are the result in the
order of the elements.

`joinBranches` works for every order of endings. `inOrder` is the order of the elements themselves,
in which the first failing element decides the error.

## Main statement

* `joinBranches_inOrder`: joined in the order of the elements, the branches give the list of their
  results, or the error of the first that failed.
-/

namespace CheckScript

/-- The end of one branch: the place of its element with its result, or nothing of either. -/
inductive BranchEnd where
  | finished (index : Nat) (result : Except RuntimeError Value)
  | lost (reason : String)

/-- Fills slots from branches in the order in which they ended. -/
def fillSlots (slots : List (Option Value)) :
    List BranchEnd → Except RuntimeError (List (Option Value))
  | [] => .ok slots
  | .lost reason :: _ => .error (.branchLost reason)
  | .finished _ (.error e) :: _ => .error e
  | .finished index (.ok value) :: ends => fillSlots (slots.set index (some value)) ends

/-- Joins the branches of `count` elements in the order in which they ended. -/
def joinBranches (count : Nat) (ends : List BranchEnd) : Except RuntimeError (List Value) :=
  (fillSlots (List.replicate count none) ends).map fun slots => slots.filterMap id

/-- Branches that end in the order of their elements, the first of which has place `start`. -/
def endsFrom (start : Nat) : List (Except RuntimeError Value) → List BranchEnd
  | [] => []
  | result :: results => .finished start result :: endsFrom (start + 1) results

/-- Branches that end in the order of their elements. -/
def inOrder (results : List (Except RuntimeError Value)) : List BranchEnd := endsFrom 0 results

/-- The results of a list, or the first error in it. -/
def allOrFirstError : List (Except RuntimeError Value) → Except RuntimeError (List Value)
  | [] => .ok []
  | .error e :: _ => .error e
  | .ok value :: results => (allOrFirstError results).map (value :: ·)

theorem fillSlots_endsFrom (done : List Value) : ∀ results : List (Except RuntimeError Value),
    fillSlots (done.map some ++ List.replicate results.length none) (endsFrom done.length results)
      = (allOrFirstError results).map fun values => (done ++ values).map some
  | [] => by simp [endsFrom, fillSlots, allOrFirstError, Except.map]
  | .error e :: results => by simp [endsFrom, fillSlots, allOrFirstError, Except.map]
  | .ok value :: results => by
    have ih := fillSlots_endsFrom (done ++ [value]) results
    have hslots : (done.map some ++ List.replicate (results.length + 1) none).set done.length
        (some value) = (done ++ [value]).map some ++ List.replicate results.length none := by
      simp [List.replicate_succ, List.set_append_right]
    simp only [endsFrom, fillSlots, List.length_cons, hslots, allOrFirstError]
    rw [List.length_append] at ih
    simp only [List.length_cons, List.length_nil, Nat.zero_add] at ih
    rw [ih]
    cases allOrFirstError results <;> simp [Except.map]

/-- **Joined in the order of the elements, the branches give their results in that order, or the
error of the first that failed.** -/
theorem joinBranches_inOrder (results : List (Except RuntimeError Value)) :
    joinBranches results.length (inOrder results) = allOrFirstError results := by
  have h := fillSlots_endsFrom [] results
  simp only [List.map_nil, List.nil_append, List.length_nil] at h
  rw [joinBranches, inOrder, h]
  cases allOrFirstError results with
  | error e => rfl
  | ok values => simp [Except.map, List.filterMap_map]

end CheckScript
