import CheckScript.Context
import CheckScript.ValueJson
import CheckScript.Proofs.Dict.Bindings
import CheckScript.Proofs.Text.ByteOrder
import Mathlib.Data.Set.Card

/-!
# The history of a context

A context is made of a fresh one by changes that each insert or remove one key. All that is left of
its history are the last changes of the keys: a key is bound iff its last change inserts it, to the
value that this change inserts (`get?_after_eq_some_iff`). One step carries this: a change decides
what its own key is bound to and leaves the other keys as they are (`get?_change`).

Since the bindings determine a dictionary, they determine all that can be seen of a context.

## Main statement

* `contexts_canonical`: what looking up, changing, listing and counting answer, and that contexts
  with the same bindings are one.
-/

namespace CheckScript

namespace Dict

universe u

variable {α : Type u}

/-! ## Listing and counting -/

/-- **The size of a dictionary is the number of its keys.** -/
theorem encard_bound (dict : Dict α) :
    {key | ∃ value, dict.get? key = some value}.encard = dict.size := by
  have hkeys : {key | ∃ value, dict.get? key = some value} = ↑dict.keys.toFinset := by
    ext key
    rw [Set.mem_ofPred_eq, ← mem_keys_iff, Finset.mem_coe, List.mem_toFinset]
  rw [hkeys, Set.encard_coe_eq_coe_finsetCard, List.toFinset_card_of_nodup dict.nodup_keys, keys,
    List.length_map]
  rfl

theorem isEmpty_iff_size {dict : Dict α} : dict.isEmpty = true ↔ dict.size = 0 := by
  rw [isEmpty, size, List.isEmpty_iff, List.length_eq_zero_iff]

/-- The entries are in the order of the bytes of their keys. -/
theorem pairwise_bytes (dict : Dict α) :
    dict.entries.Pairwise fun a b => Text.bytes a.1 < Text.bytes b.1 :=
  dict.ascending.imp Text.bytes_lt_bytes

end Dict

namespace Context

variable {changes : List Change} {key : String} {value : Value}

/-! ## One change -/

/-- What a change leaves its key bound to. -/
def Change.value? : Change → Option Value
  | .insert _ value => some value
  | .remove _ => none

theorem change_answer (context : Context) (change : Change) :
    (context.change change).1 = context.get? change.key := by
  cases change with
  | insert key value =>
    rw [Context.change, Dict.exchange_eq]
    rfl
  | remove key =>
    rw [Context.change, Dict.withdraw_eq]
    rfl

/-- **A change decides about its own key and leaves the others as they are.** -/
theorem get?_change (context : Context) (change : Change) (key : String) :
    (context.change change).2.get? key
      = if change.key = key then change.value? else context.get? key := by
  cases change with
  | insert other value =>
    rw [Context.change, Dict.exchange_eq]
    split
    · next h =>
      obtain rfl : other = key := h
      exact Dict.get?_insert_self ..
    · next h => exact Dict.get?_insert_of_ne _ _ h
  | remove other =>
    rw [Context.change, Dict.withdraw_eq]
    split
    · next h =>
      obtain rfl : other = key := h
      exact Dict.get?_erase_self ..
    · next h => exact Dict.get?_erase_of_ne _ h

/-! ## All changes -/

/-- The last change of the key inserts it with the value. -/
def LastInserts (changes : List Change) (key : String) (value : Value) : Prop :=
  ∃ before later, changes = before ++ .insert key value :: later
    ∧ ∀ change ∈ later, change.key ≠ key

theorem lastInserts_iff : LastInserts changes key value
    ↔ Dict.LastBinds (changes.map fun change => (change.key, change.value?)) key (some value) := by
  constructor
  · rintro ⟨before, later, rfl, hlater⟩
    refine ⟨_, later.map fun change => (change.key, change.value?), List.map_append, ?_⟩
    simpa using hlater
  · rintro ⟨before, later, heq, hlater⟩
    obtain ⟨xs, ys, rfl, rfl, hys⟩ := List.map_eq_append_iff.mp heq
    obtain ⟨change, ys, rfl, hchange, rfl⟩ := List.map_eq_cons_iff.mp hys
    obtain ⟨rfl, hvalue⟩ := Prod.mk.inj hchange
    cases change with
    | insert other inserted =>
      obtain rfl := Option.some.inj hvalue
      exact ⟨xs, ys, rfl, by simpa using hlater⟩
    | remove other => cases hvalue

theorem after_concat (changes : List Change) (change : Change) :
    after (changes ++ [change]) = ((after changes).change change).2 := by
  rw [after, List.foldl_concat]
  rfl

/-- **A key is bound iff its last change inserts it.** -/
theorem get?_after_eq_some_iff :
    (after changes).get? key = some value ↔ LastInserts changes key value := by
  rw [lastInserts_iff]
  induction changes using List.reverseRecOn with
  | nil => exact iff_of_false (by simp [after]) Dict.not_lastBinds_nil
  | append_singleton changes change ih =>
    rw [after_concat, get?_change, List.map_append, List.map_singleton]
    split
    · next h => rw [← h, Dict.lastBinds_concat_self]
    · next h => rw [Dict.lastBinds_concat_of_ne h, ih]

/-- **Contexts with the same last insertions are one.** -/
theorem after_eq_after {xs ys : List Change}
    (h : ∀ key value, LastInserts xs key value ↔ LastInserts ys key value) :
    after xs = after ys :=
  Dict.ext_get? fun key => Option.ext fun value => by
    rw [get?_after_eq_some_iff, get?_after_eq_some_iff, h]

/-- **Contexts are canonical.** After any changes of a fresh context: a key is bound to the value
that its last change inserts, and not bound if that change removes it or there is none. A change
answers what was bound before it. The entries are the bound keys with their values, in strictly
increasing order of their bytes; the size is the number of these keys, and the context is empty iff
it is zero. Changes that leave the same bindings, in whatever order they were made, leave the same
context, which is the same value and reads the same. -/
theorem contexts_canonical :
    (∀ changes key value,
      (after changes).get? key = some value ↔ LastInserts changes key value)
    ∧ (∀ changes change,
      (after changes).change change = ((after changes).get? change.key, after (changes ++ [change])))
    ∧ (∀ changes,
      ((after changes).entries.Pairwise fun a b => Text.bytes a.1 < Text.bytes b.1)
      ∧ (∀ key value,
        (key, value) ∈ (after changes).entries ↔ (after changes).get? key = some value)
      ∧ {key | ∃ value, (after changes).get? key = some value}.encard = (after changes).size
      ∧ ((after changes).isEmpty = true ↔ (after changes).size = 0))
    ∧ ∀ xs ys, (∀ key value, LastInserts xs key value ↔ LastInserts ys key value) →
      after xs = after ys ∧ (after xs).toValue = (after ys).toValue
        ∧ (after xs).toValue.display = (after ys).toValue.display := by
  refine ⟨fun _ _ _ => get?_after_eq_some_iff, fun changes change => ?_, fun changes => ?_,
    fun xs ys h => ?_⟩
  · rw [after_concat, ← change_answer]
  · exact ⟨Dict.pairwise_bytes _, fun _ _ => Dict.get?_eq_some_iff_mem.symm, Dict.encard_bound _,
      Dict.isEmpty_iff_size⟩
  · rw [after_eq_after h]
    exact ⟨rfl, rfl, rfl⟩

/-- Two keys are inserted. -/
def plainHistory : List Change := [.insert "a" (.text "1"), .insert "b" .unit]

/-- The same in the end, with changes that were taken back or made over. -/
def windingHistory : List Change :=
  [.insert "b" (.text "0"), .insert "c" .unit, .insert "b" .unit, .remove "c",
    .insert "a" (.text "1")]

theorem contexts_canonical_windingHistory : after windingHistory = after plainHistory
    ∧ (after windingHistory).toValue.display = "\x7b\"a\":\"1\",\"b\":null\x7d" := by
  obtain ⟨hget, -, -, hsame⟩ := contexts_canonical
  have hlast : ∀ key value,
      LastInserts windingHistory key value ↔ LastInserts plainHistory key value := by
    intro key value
    rw [← hget, ← hget]
    simp only [after, windingHistory, plainHistory, List.foldl_cons, List.foldl_nil, get?_change,
      Change.key, Change.value?, Dict.get?_empty]
    by_cases hb : "b" = key
    · subst hb
      simp
    · by_cases hc : "c" = key
      · subst hc
        simp
      · simp only [hb, hc, if_false]
        exact Iff.rfl
  obtain ⟨hafter, -, hdisplay⟩ := hsame _ _ hlast
  refine ⟨hafter, hdisplay.trans ?_⟩
  decide

end Context

end CheckScript
