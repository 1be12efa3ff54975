import CheckScript.Step.Join
import Mathlib.Data.List.Basic

/-!
# Joining branches in any order

The loop that joins branches sees them in the order in which they end. What it gives does not depend
on that order, except for which error it is if several branches fail: it gives values iff these are
the results of all branches, in the order of the elements (`joinBranches_eq_ok_iff`), and an error
only if that is the result of a branch (`mem_of_joinBranches_eq_error`).

The invariant of the loop is `filled`: the slots of the elements whose branches were joined hold
their values, and the others are empty. At the end none is (`filled_eq_map_some`), so that nothing
is lost when the slots are emptied into a list.
-/

namespace CheckScript

/-! ## Ends of branches -/

/-- The place of the element of the branch. -/
def BranchEnd.place? : BranchEnd → Option Nat
  | .finished index _ => some index
  | .lost _ => none

theorem mem_endsFrom {start : Nat} {results : List (Except RuntimeError Value)} {e : BranchEnd} :
    e ∈ endsFrom start results
      ↔ ∃ i result, results[i]? = some result ∧ e = .finished (start + i) result := by
  induction results generalizing start with
  | nil => simp [endsFrom]
  | cons first rest ih =>
    rw [endsFrom, List.mem_cons, ih]
    constructor
    · rintro (rfl | ⟨i, result, hi, rfl⟩)
      · exact ⟨0, first, rfl, rfl⟩
      · exact ⟨i + 1, result, hi, by rw [Nat.add_right_comm, Nat.add_assoc]⟩
    · rintro ⟨i, result, hi, rfl⟩
      cases i with
      | zero =>
        obtain rfl : first = result := Option.some.inj hi
        exact .inl rfl
      | succ i => exact .inr ⟨i, result, hi, by rw [Nat.add_right_comm, Nat.add_assoc]⟩

/-- Each branch ends once, with its result at the place of its element. -/
theorem mem_inOrder {results : List (Except RuntimeError Value)} {e : BranchEnd} :
    e ∈ inOrder results ↔ ∃ i result, results[i]? = some result ∧ e = .finished i result := by
  rw [inOrder, mem_endsFrom]
  simp only [Nat.zero_add]

/-! ## The loop -/

/-- The slots after the branches at these places were joined. -/
def filled (values : List Value) (joined : List Nat) : List (Option Value) :=
  values.mapIdx fun i value => if i ∈ joined then some value else none

theorem filled_nil (values : List Value) :
    filled values [] = List.replicate values.length none := by
  simp [filled, List.eq_replicate_iff]

theorem filled_eq_map_some {values : List Value} {joined : List Nat}
    (h : ∀ i, i < values.length → i ∈ joined) : filled values joined = values.map some := by
  refine List.ext_getElem (by simp [filled]) fun i hi _ => ?_
  have hjoined : i ∈ joined := h i (by simpa [filled] using hi)
  simp [filled, hjoined]

/-- One more branch that is joined fills one more slot. -/
theorem set_filled {values : List Value} {joined : List Nat} {i : Nat} {value : Value}
    (h : values[i]? = some value) :
    (filled values joined).set i (some value) = filled values (i :: joined) := by
  obtain ⟨hi, rfl⟩ := List.getElem?_eq_some_iff.mp h
  refine List.ext_getElem (by simp [filled]) fun j hj _ => ?_
  rw [List.getElem_set]
  split
  · next heq =>
    subst heq
    simp [filled]
  · next hne => simp [filled, Ne.symm hne]

/-- **Joining branches that all succeed fills the slots of their elements and no others.** -/
theorem fillSlots_filled {values : List Value} {ends : List BranchEnd}
    (h : ∀ e ∈ ends, ∃ i value, values[i]? = some value ∧ e = .finished i (.ok value))
    (joined : List Nat) :
    ∃ joined', fillSlots (filled values joined) ends = .ok (filled values joined')
      ∧ joined ⊆ joined' ∧ ∀ e ∈ ends, ∀ i ∈ e.place?, i ∈ joined' := by
  induction ends generalizing joined with
  | nil => exact ⟨joined, rfl, List.Subset.refl _, by simp⟩
  | cons first rest ih =>
    obtain ⟨i, value, hi, rfl⟩ := h first List.mem_cons_self
    obtain ⟨joined', hfill, hsub, hrest⟩ :=
      ih (fun e he => h e (List.mem_cons_of_mem _ he)) (i :: joined)
    -- what was joined stays joined: filling a slot again would give it the same value
    refine ⟨joined', ?_, fun j hj => hsub (List.mem_cons_of_mem _ hj), ?_⟩
    · rw [fillSlots, set_filled hi, hfill]
    · intro e he j hj
      rcases List.mem_cons.mp he with rfl | he
      · obtain rfl : i = j := Option.some.inj hj
        exact hsub List.mem_cons_self
      · exact hrest e he j hj

/-- **If a branch fails, the loop ends with the error of a branch that failed.** -/
theorem fillSlots_of_error {ends : List BranchEnd}
    (h : ∀ e ∈ ends, ∃ i result, e = .finished i result)
    (hfails : ∃ i error, BranchEnd.finished i (.error error) ∈ ends) (slots : List (Option Value)) :
    ∃ i error, BranchEnd.finished i (.error error) ∈ ends
      ∧ fillSlots slots ends = .error error := by
  induction ends generalizing slots with
  | nil =>
    obtain ⟨i, error, hmem⟩ := hfails
    cases hmem
  | cons first rest ih =>
    obtain ⟨i, result, rfl⟩ := h first List.mem_cons_self
    -- the loop stops at the first failure that it sees, which need not be the given one
    cases result with
    | error error => exact ⟨i, error, List.mem_cons_self, by rw [fillSlots]⟩
    | ok value =>
      have hlater : ∃ i error, BranchEnd.finished i (.error error) ∈ rest := by
        obtain ⟨j, error, hmem⟩ := hfails
        rcases List.mem_cons.mp hmem with heq | hmem
        · cases heq
        · exact ⟨j, error, hmem⟩
      obtain ⟨j, error, hmem, hfill⟩ :=
        ih (fun e he => h e (List.mem_cons_of_mem _ he)) hlater (slots.set i (some value))
      exact ⟨j, error, List.mem_cons_of_mem _ hmem, by rw [fillSlots, hfill]⟩

/-! ## All branches -/

section

variable {results : List (Except RuntimeError Value)} {ends : List BranchEnd}

/-- **No slot is left empty**, in whatever order the branches ended. -/
theorem fillSlots_of_all_ok {values : List Value} (h : ends.Perm (inOrder (values.map .ok))) :
    fillSlots (List.replicate values.length none) ends = .ok (values.map some) := by
  have hends : ∀ e, e ∈ ends
      ↔ ∃ i value, values[i]? = some value ∧ e = .finished i (.ok value) := by
    intro e
    rw [h.mem_iff, mem_inOrder]
    constructor
    · rintro ⟨i, result, hi, rfl⟩
      rw [List.getElem?_map, Option.map_eq_some_iff] at hi
      obtain ⟨value, hi, rfl⟩ := hi
      exact ⟨i, value, hi, rfl⟩
    · rintro ⟨i, value, hi, rfl⟩
      exact ⟨i, .ok value, by rw [List.getElem?_map, hi]; rfl, rfl⟩
  -- every index has a branch that ends, so that no slot is left out at the end of the loop
  obtain ⟨joined, hfill, -, hjoined⟩ := fillSlots_filled (fun e he => (hends e).mp he) []
  rw [← filled_nil, hfill, filled_eq_map_some fun i hi => ?_]
  have hmem := (hends (.finished i (.ok values[i]))).mpr
    ⟨i, values[i], List.getElem?_eq_getElem hi, rfl⟩
  exact hjoined _ hmem i rfl

theorem joinBranches_of_all_ok {values : List Value} (h : ends.Perm (inOrder (values.map .ok))) :
    joinBranches values.length ends = .ok values := by
  rw [joinBranches, fillSlots_of_all_ok h]
  simp [Except.map, List.filterMap_map]

/-- **If a branch fails, joining gives the error of a branch that failed.** -/
theorem joinBranches_of_error (h : ends.Perm (inOrder results)) (count : Nat)
    (hfails : ∃ error, .error error ∈ results) :
    ∃ error, .error error ∈ results ∧ joinBranches count ends = .error error := by
  have hends : ∀ e ∈ ends, ∃ i result, e = .finished i result := by
    intro e he
    obtain ⟨i, result, -, rfl⟩ := mem_inOrder.mp (h.mem_iff.mp he)
    exact ⟨i, result, rfl⟩
  have hmem : ∀ i result, BranchEnd.finished i result ∈ ends ↔ results[i]? = some result := by
    intro i result
    rw [h.mem_iff, mem_inOrder]
    constructor
    · rintro ⟨_, _, hi, heq⟩
      cases heq
      exact hi
    · exact fun hi => ⟨i, result, hi, rfl⟩
  obtain ⟨error, herror⟩ := hfails
  obtain ⟨i, hi⟩ := List.getElem?_of_mem herror
  obtain ⟨j, first, hj, hfill⟩ :=
    fillSlots_of_error hends ⟨i, error, (hmem _ _).mpr hi⟩ (List.replicate count none)
  refine ⟨first, List.mem_of_getElem? ((hmem _ _).mp hj), ?_⟩
  rw [joinBranches, hfill]
  rfl

/-- Results are values, or one of them is an error. -/
theorem all_ok_or_error (results : List (Except RuntimeError Value)) :
    (∃ values : List Value, results = values.map .ok) ∨ ∃ error, .error error ∈ results := by
  induction results with
  | nil => exact .inl ⟨[], rfl⟩
  | cons first rest ih =>
    cases first with
    | error e => exact .inr ⟨e, List.mem_cons_self⟩
    | ok value =>
      rcases ih with ⟨values, rfl⟩ | ⟨e, he⟩
      · exact .inl ⟨value :: values, rfl⟩
      · exact .inr ⟨e, List.mem_cons_of_mem _ he⟩

/-- **Joining gives values iff they are the results of the branches, in the order of the
elements.** -/
theorem joinBranches_eq_ok_iff (h : ends.Perm (inOrder results)) {values : List Value} :
    joinBranches results.length ends = .ok values ↔ results = values.map .ok := by
  constructor
  · intro hjoin
    rcases all_ok_or_error results with ⟨values', rfl⟩ | hfails
    · rw [List.length_map, joinBranches_of_all_ok h] at hjoin
      rw [Except.ok.inj hjoin]
    · obtain ⟨e, -, herror⟩ := joinBranches_of_error h results.length hfails
      rw [herror] at hjoin
      cases hjoin
  · rintro rfl
    rw [List.length_map, joinBranches_of_all_ok h]

/-- **Joining fails only with the error of a branch.** -/
theorem mem_of_joinBranches_eq_error (h : ends.Perm (inOrder results)) {error : RuntimeError}
    (hjoin : joinBranches results.length ends = .error error) : .error error ∈ results := by
  rcases all_ok_or_error results with ⟨values, rfl⟩ | hfails
  · rw [List.length_map, joinBranches_of_all_ok h] at hjoin
    cases hjoin
  · obtain ⟨e, hmem, herror⟩ := joinBranches_of_error h results.length hfails
    rw [herror] at hjoin
    cases hjoin
    exact hmem

end

end CheckScript
