import CheckScript.Dict
import Mathlib.Data.List.Induction
import Mathlib.Data.List.Nodup

/-!
# What a list of pairs binds

A dictionary made of a list of pairs binds each key to the value that stands with it last
(`get?_ofList_eq_some_iff`). So two lists make the same dictionary iff they have the same last pairs
(`ofList_eq_ofList_iff`), and where no key is there twice the order of the pairs does not matter at
all (`ofList_perm`).
-/

namespace CheckScript

namespace Dict

universe u

variable {α : Type u} {pairs xs ys : List (String × α)} {key : String} {value : α}

/-! ## Last pairs -/

/-- The last pair with the key has the value. -/
def LastBinds (pairs : List (String × α)) (key : String) (value : α) : Prop :=
  ∃ before after, pairs = before ++ (key, value) :: after ∧ key ∉ after.map Prod.fst

theorem not_lastBinds_nil : ¬LastBinds [] key value := by
  rintro ⟨before, after, heq, -⟩
  simp at heq

theorem LastBinds.mem (h : LastBinds pairs key value) : (key, value) ∈ pairs := by
  obtain ⟨before, after, rfl, -⟩ := h
  simp

theorem lastBinds_concat_self {last : α} :
    LastBinds (pairs ++ [(key, last)]) key value ↔ last = value := by
  constructor
  · rintro ⟨before, after, heq, hnot⟩
    cases after using List.reverseRecOn with
    | nil =>
      obtain ⟨-, heq⟩ := List.append_inj' heq rfl
      simpa using heq
    | append_singleton after pair =>
      rw [← List.cons_append, ← List.append_assoc] at heq
      obtain ⟨-, heq⟩ := List.append_inj' heq rfl
      obtain rfl : (key, last) = pair := by simpa using heq
      simp at hnot
  · rintro rfl
    exact ⟨pairs, [], rfl, by simp⟩

theorem lastBinds_concat_of_ne {other : String} {last : α} (h : key ≠ other) :
    LastBinds (pairs ++ [(key, last)]) other value ↔ LastBinds pairs other value := by
  constructor
  · rintro ⟨before, after, heq, hnot⟩
    cases after using List.reverseRecOn with
    | nil =>
      obtain ⟨-, heq⟩ := List.append_inj' heq rfl
      exact absurd (by simpa using heq) (fun hpair : key = other ∧ last = value => h hpair.1)
    | append_singleton after pair =>
      rw [← List.cons_append, ← List.append_assoc] at heq
      obtain ⟨rfl, -⟩ := List.append_inj' heq rfl
      refine ⟨before, after, rfl, fun hmem => hnot ?_⟩
      rw [List.map_append]
      exact List.mem_append_left _ hmem
  · rintro ⟨before, after, rfl, hnot⟩
    refine ⟨before, after ++ [(key, last)], by simp, ?_⟩
    simpa [Ne.symm h] using hnot

/-- Where no key is there twice, every pair is the last one with its key. -/
theorem lastBinds_iff_mem (h : (pairs.map Prod.fst).Nodup) :
    LastBinds pairs key value ↔ (key, value) ∈ pairs := by
  refine ⟨LastBinds.mem, fun hmem => ?_⟩
  obtain ⟨before, after, rfl⟩ := List.append_of_mem hmem
  rw [List.map_append, List.map_cons] at h
  exact ⟨before, after, rfl, (List.nodup_cons.mp h.of_append_right).1⟩

/-! ## Dictionaries -/

theorem ofList_concat (pair : String × α) :
    ofList (pairs ++ [pair]) = (ofList pairs).insert pair.1 pair.2 := by
  rw [ofList, List.foldl_concat]
  rfl

/-- **The last pair with a key is the one that counts.** -/
theorem get?_ofList_eq_some_iff :
    (ofList pairs).get? key = some value ↔ LastBinds pairs key value := by
  induction pairs using List.reverseRecOn generalizing value with
  | nil => simp [ofList, not_lastBinds_nil]
  | append_singleton pairs pair ih =>
    obtain ⟨k, v⟩ := pair
    rw [ofList_concat]
    by_cases hkey : k = key
    · subst hkey
      rw [get?_insert_self, lastBinds_concat_self, Option.some.injEq]
    · rw [get?_insert_of_ne _ _ hkey, lastBinds_concat_of_ne hkey, ih]

theorem mem_keys_insert (dict : Dict α) {other : String} :
    other ∈ (dict.insert key value).keys ↔ other = key ∨ other ∈ dict.keys := by
  rw [mem_keys_iff, mem_keys_iff]
  by_cases hkey : key = other
  · subst hkey
    simp [get?_insert_self]
  · rw [get?_insert_of_ne _ _ hkey]
    simp [Ne.symm hkey]

theorem mem_keys_ofList : key ∈ (ofList pairs).keys ↔ key ∈ pairs.map Prod.fst := by
  induction pairs using List.reverseRecOn with
  | nil => exact Iff.rfl
  | append_singleton pairs pair ih =>
    rw [ofList_concat, mem_keys_insert, ih, List.map_append, List.mem_append, or_comm]
    simp

/-- **Lists make the same dictionary iff they have the same last pairs.** -/
theorem ofList_eq_ofList_iff :
    ofList xs = ofList ys ↔ ∀ key value, LastBinds xs key value ↔ LastBinds ys key value := by
  constructor
  · intro h key value
    rw [← get?_ofList_eq_some_iff, ← get?_ofList_eq_some_iff, h]
  · intro h
    refine ext_get? fun key => Option.ext fun value => ?_
    rw [get?_ofList_eq_some_iff, get?_ofList_eq_some_iff, h]

/-! ## Different keys -/

theorem nodup_keys (dict : Dict α) : dict.keys.Nodup := by
  refine dict.pairwise_keys.imp fun {a b} hlt heq => ?_
  rw [heq] at hlt
  exact String.lt_irrefl b hlt

/-- What is bound to a key stands with it among the entries. -/
theorem get?_eq_some_iff_mem {dict : Dict α} :
    dict.get? key = some value ↔ (key, value) ∈ dict.entries := by
  have hself : ofList dict.entries = dict := ext_get? fun k => by
    rw [get?, get?, entries_ofList dict.ascending]
  rw [← lastBinds_iff_mem dict.nodup_keys, ← get?_ofList_eq_some_iff, hself]

theorem keys_ofList_perm (h : (pairs.map Prod.fst).Nodup) :
    (ofList pairs).keys.Perm (pairs.map Prod.fst) :=
  (List.perm_ext_iff_of_nodup (nodup_keys _) h).mpr fun _ => mem_keys_ofList

/-- **Where no key is there twice, the order of the pairs does not matter.** -/
theorem ofList_perm (hperm : xs.Perm ys) (h : (xs.map Prod.fst).Nodup) :
    ofList xs = ofList ys := by
  have h' : (ys.map Prod.fst).Nodup := (hperm.map Prod.fst).nodup_iff.mp h
  refine ofList_eq_ofList_iff.mpr fun key value => ?_
  rw [lastBinds_iff_mem h, lastBinds_iff_mem h', hperm.mem_iff]

end Dict

end CheckScript
