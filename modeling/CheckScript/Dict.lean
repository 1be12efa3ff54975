/-!
# Dictionaries in key order

`Dict α` binds texts to values. Its entries are kept in strictly increasing order of their keys, so
a key is bound once and dictionaries with the same bindings are equal. Texts are ordered by their
code points, which is also the order of their UTF-8 bytes.

## Contents

* `get?`, `insert`, `erase`, `keys`, `size`, `isEmpty`, `ofList` (later pairs win).
* `exchange`, `withdraw`: `insert` and `erase` with the value that was bound before, found on the
  way to its place (`exchange_eq`, `withdraw_eq`).
* `get?_insert_self`, `get?_insert_of_ne`, `get?_erase_self`, `get?_erase_of_ne`: what looking up a
  key sees of a change.
* `isEmpty_iff`, `mem_keys_iff`, `pairwise_keys`: which keys are bound, and their order.
* `entries_ofList`: what is in order already stays as it is.
* `ext_get?`: a dictionary is determined by what `get?` answers.
-/

namespace CheckScript

universe u

/-- Entries in strictly increasing order of their keys. -/
def Ascending {α : Type u} (entries : List (String × α)) : Prop :=
  entries.Pairwise fun a b => a.1 < b.1

/-- A dictionary: its entries in strictly increasing order of their keys. -/
structure Dict (α : Type u) where
  entries : List (String × α)
  ascending : Ascending entries

/-! ## Entry lists -/

namespace Entries

variable {α : Type u}

/-- The value bound to `key`. -/
def get? (key : String) : List (String × α) → Option α
  | [] => none
  | (k, v) :: rest => if k = key then some v else get? key rest

/-- Binds `key` at its place in the order, over an earlier binding. -/
def insert (key : String) (value : α) : List (String × α) → List (String × α)
  | [] => [(key, value)]
  | (k, v) :: rest =>
    if key < k then (key, value) :: (k, v) :: rest
    else if key = k then (key, value) :: rest
    else (k, v) :: insert key value rest

/-- Removes the binding of `key`. -/
def erase (key : String) : List (String × α) → List (String × α)
  | [] => []
  | (k, v) :: rest => if k = key then rest else (k, v) :: erase key rest

/-- Binds `key` at its place in the order, and answers the value that it was bound to. -/
def exchange (key : String) (value : α) : List (String × α) → Option α × List (String × α)
  | [] => (none, [(key, value)])
  | (k, v) :: rest =>
    if key < k then (none, (key, value) :: (k, v) :: rest)
    else if key = k then (some v, (key, value) :: rest)
    else
      let (old, rest) := exchange key value rest
      (old, (k, v) :: rest)

/-- Removes the binding of `key`, and answers the value that it was bound to. -/
def withdraw (key : String) : List (String × α) → Option α × List (String × α)
  | [] => (none, [])
  | (k, v) :: rest =>
    if k = key then (some v, rest)
    else
      let (old, rest) := withdraw key rest
      (old, (k, v) :: rest)

theorem lt_of_not_lt_of_ne {a b : String} (h : ¬a < b) (hne : a ≠ b) : b < a := by
  rcases Std.lt_trichotomy a b with hlt | heq | hgt
  · exact absurd hlt h
  · exact absurd heq hne
  · exact hgt

theorem mem_insert {key : String} {value : α} {entries : List (String × α)} {e : String × α}
    (h : e ∈ insert key value entries) : e = (key, value) ∨ e ∈ entries := by
  induction entries with
  | nil => simpa [insert] using h
  | cons head rest ih =>
    obtain ⟨k, v⟩ := head
    rw [insert] at h
    split at h
    · simpa using h
    · split at h
      · rcases List.mem_cons.mp h with h | h
        · exact .inl h
        · exact .inr (List.mem_cons_of_mem _ h)
      · rcases List.mem_cons.mp h with h | h
        · exact .inr (by simp [h])
        · rcases ih h with h | h
          · exact .inl h
          · exact .inr (List.mem_cons_of_mem _ h)

theorem ascending_insert (key : String) (value : α) {entries : List (String × α)}
    (h : Ascending entries) : Ascending (insert key value entries) := by
  induction entries with
  | nil => simp [insert, Ascending]
  | cons head rest ih =>
    obtain ⟨k, v⟩ := head
    obtain ⟨hhead, hrest⟩ := List.pairwise_cons.mp h
    rw [insert]
    split
    · next hlt =>
      refine List.pairwise_cons.mpr ⟨fun e he => ?_, h⟩
      rcases List.mem_cons.mp he with rfl | he
      · exact hlt
      · exact String.lt_trans hlt (hhead e he)
    · next hnlt =>
      split
      · next heq => exact List.pairwise_cons.mpr ⟨fun e he => heq ▸ hhead e he, hrest⟩
      · next hne =>
        refine List.pairwise_cons.mpr ⟨fun e he => ?_, ih hrest⟩
        rcases mem_insert he with rfl | he
        · exact lt_of_not_lt_of_ne hnlt hne
        · exact hhead e he

/-- A key that comes after all others is bound at the end. -/
theorem insert_of_forall_lt {key : String} (value : α) {entries : List (String × α)}
    (h : ∀ e ∈ entries, e.1 < key) : insert key value entries = entries ++ [(key, value)] := by
  induction entries with
  | nil => rfl
  | cons head rest ih =>
    obtain ⟨hhead, hrest⟩ := List.forall_mem_cons.mp h
    have hnlt : ¬key < head.1 := fun hlt => String.lt_irrefl key (String.lt_trans hlt hhead)
    have hne : key ≠ head.1 := fun heq => String.lt_irrefl head.1 (heq ▸ hhead)
    rw [insert, if_neg hnlt, if_neg hne, ih hrest, List.cons_append]

theorem sublist_erase (key : String) (entries : List (String × α)) :
    (erase key entries).Sublist entries := by
  induction entries with
  | nil => simp [erase]
  | cons head rest ih =>
    rw [erase]
    split
    · exact List.sublist_cons_self _ _
    · exact ih.cons_cons _

theorem ascending_erase (key : String) {entries : List (String × α)} (h : Ascending entries) :
    Ascending (erase key entries) :=
  List.Pairwise.sublist (sublist_erase key entries) h

theorem get?_insert (key : String) (value : α) (entries : List (String × α)) (other : String) :
    get? other (insert key value entries)
      = if key = other then some value else get? other entries := by
  induction entries with
  | nil => simp [insert, get?]
  | cons head rest ih =>
    obtain ⟨k, v⟩ := head
    rw [insert]
    split
    · simp [get?]
    · split
      · next heq => subst heq; by_cases h : key = other <;> simp [get?, h]
      · next hne =>
        rw [get?, get?, ih]
        by_cases h : key = other
        · subst h; simp [Ne.symm hne]
        · simp [h]

theorem get?_of_forall_lt {key : String} {entries : List (String × α)}
    (h : ∀ e ∈ entries, key < e.1) : get? key entries = none := by
  induction entries with
  | nil => rfl
  | cons head rest ih =>
    have hne : head.1 ≠ key := fun heq => String.lt_irrefl key (heq ▸ h head (by simp))
    simp [get?, hne, ih (fun e he => h e (List.mem_cons_of_mem _ he))]

theorem get?_erase (key : String) {entries : List (String × α)} (h : Ascending entries)
    (other : String) :
    get? other (erase key entries) = if key = other then none else get? other entries := by
  induction entries with
  | nil => simp [erase, get?]
  | cons head rest ih =>
    obtain ⟨k, v⟩ := head
    obtain ⟨hhead, hrest⟩ := List.pairwise_cons.mp h
    rw [erase]
    split
    · next heq =>
      subst heq
      by_cases h : k = other
      · subst h; simp [get?_of_forall_lt hhead]
      · simp [get?, h]
    · next hne =>
      rw [get?, get?, ih hrest]
      by_cases h : key = other
      · subst h; simp [hne]
      · simp [h]

theorem exchange_eq (key : String) (value : α) {entries : List (String × α)}
    (h : Ascending entries) :
    exchange key value entries = (get? key entries, insert key value entries) := by
  induction entries with
  | nil => rfl
  | cons head rest ih =>
    obtain ⟨k, v⟩ := head
    obtain ⟨hhead, hrest⟩ := List.pairwise_cons.mp h
    rw [exchange, insert]
    split
    · next hlt =>
      -- the search stops at a greater key, as all keys behind it are greater too
      have habsent : get? key ((k, v) :: rest) = none :=
        get?_of_forall_lt (List.forall_mem_cons.mpr
          ⟨hlt, fun e he => String.lt_trans hlt (hhead e he)⟩)
      rw [habsent]
    · split
      · next heq => rw [get?, if_pos heq.symm]
      · next hne => rw [get?, if_neg (Ne.symm hne), ih hrest]

theorem withdraw_eq (key : String) (entries : List (String × α)) :
    withdraw key entries = (get? key entries, erase key entries) := by
  induction entries with
  | nil => rfl
  | cons head rest ih =>
    rw [withdraw, get?, erase]
    split
    · rfl
    · rw [ih]

/-- Ordered entries are determined by what looking up answers. -/
theorem ext_get? : ∀ {xs ys : List (String × α)}, Ascending xs → Ascending ys →
    (∀ key, get? key xs = get? key ys) → xs = ys
  | [], [], _, _, _ => rfl
  | [], (k, v) :: _, _, _, h => by simpa [get?] using h k
  | (k, v) :: _, [], _, _, h => by simpa [get?] using h k
  | (k, v) :: xs, (l, w) :: ys, hx, hy, h => by
    obtain ⟨hkx, hxs⟩ := List.pairwise_cons.mp hx
    obtain ⟨hly, hys⟩ := List.pairwise_cons.mp hy
    have hkl : k = l := by
      rcases Std.lt_trichotomy k l with hlt | heq | hgt
      · have hk := h k
        have hne : l ≠ k := fun e => String.lt_irrefl k (e ▸ hlt)
        rw [get?, if_pos rfl, get?, if_neg hne,
          get?_of_forall_lt (fun e he => String.lt_trans hlt (hly e he))] at hk
        exact absurd hk (by simp)
      · exact heq
      · have hl := h l
        have hne : k ≠ l := fun e => String.lt_irrefl l (e ▸ hgt)
        rw [get?, if_neg hne, get?, if_pos rfl,
          get?_of_forall_lt (fun e he => String.lt_trans hgt (hkx e he))] at hl
        exact absurd hl (by simp)
    subst hkl
    have hvw : v = w := by simpa [get?] using h k
    subst hvw
    have htail : xs = ys := by
      refine ext_get? hxs hys fun key => ?_
      by_cases hkey : k = key
      · subst hkey
        rw [get?_of_forall_lt hkx, get?_of_forall_lt hly]
      · simpa [get?, hkey] using h key
    rw [htail]

end Entries

/-! ## Dictionaries -/

namespace Dict

variable {α : Type u}

/-- The dictionary without entries. -/
def empty : Dict α := ⟨[], List.Pairwise.nil⟩

instance [DecidableEq α] : DecidableEq (Dict α) := fun ⟨xs, _⟩ ⟨ys, _⟩ =>
  decidable_of_iff (xs = ys) (Dict.mk.injEq xs _ ys _ ▸ Iff.rfl)

instance : Inhabited (Dict α) := ⟨empty⟩
instance : EmptyCollection (Dict α) := ⟨empty⟩

/-- The value bound to `key`. -/
def get? (dict : Dict α) (key : String) : Option α := Entries.get? key dict.entries

/-- Whether `key` is bound. -/
def contains (dict : Dict α) (key : String) : Bool := (dict.get? key).isSome

/-- Binds `key` to `value`, over an earlier binding. -/
def insert (dict : Dict α) (key : String) (value : α) : Dict α :=
  ⟨Entries.insert key value dict.entries, Entries.ascending_insert key value dict.ascending⟩

/-- Removes the binding of `key`. -/
def erase (dict : Dict α) (key : String) : Dict α :=
  ⟨Entries.erase key dict.entries, Entries.ascending_erase key dict.ascending⟩

/-- Binds `key` to `value`, and answers the value that it was bound to. -/
def exchange (dict : Dict α) (key : String) (value : α) : Option α × Dict α :=
  ((Entries.exchange key value dict.entries).1, ⟨(Entries.exchange key value dict.entries).2, by
    rw [Entries.exchange_eq key value dict.ascending]
    exact Entries.ascending_insert key value dict.ascending⟩)

/-- Removes the binding of `key`, and answers the value that it was bound to. -/
def withdraw (dict : Dict α) (key : String) : Option α × Dict α :=
  ((Entries.withdraw key dict.entries).1, ⟨(Entries.withdraw key dict.entries).2, by
    rw [Entries.withdraw_eq]
    exact Entries.ascending_erase key dict.ascending⟩)

/-- The keys in increasing order. -/
def keys (dict : Dict α) : List String := dict.entries.map Prod.fst

/-- The number of bound keys. -/
def size (dict : Dict α) : Nat := dict.entries.length

/-- No key is bound. -/
def isEmpty (dict : Dict α) : Bool := dict.entries.isEmpty

/-- Binds each key of a list; later pairs win. -/
def ofList (pairs : List (String × α)) : Dict α :=
  pairs.foldl (fun dict pair => dict.insert pair.1 pair.2) empty

@[simp] theorem get?_empty (key : String) : (empty : Dict α).get? key = none := rfl

theorem get?_insert_self (dict : Dict α) (key : String) (value : α) :
    (dict.insert key value).get? key = some value := by
  simp [get?, insert, Entries.get?_insert]

theorem get?_insert_of_ne (dict : Dict α) {key other : String} (value : α) (h : key ≠ other) :
    (dict.insert key value).get? other = dict.get? other := by
  simp [get?, insert, Entries.get?_insert, h]

theorem get?_erase_self (dict : Dict α) (key : String) : (dict.erase key).get? key = none := by
  simp [get?, erase, Entries.get?_erase key dict.ascending]

theorem get?_erase_of_ne (dict : Dict α) {key other : String} (h : key ≠ other) :
    (dict.erase key).get? other = dict.get? other := by
  simp [get?, erase, Entries.get?_erase key dict.ascending, h]

/-- **An exchange answers what was bound before.** -/
theorem exchange_eq (dict : Dict α) (key : String) (value : α) :
    dict.exchange key value = (dict.get? key, dict.insert key value) := by
  simp only [exchange, Entries.exchange_eq key value dict.ascending]
  rfl

/-- **A withdrawal answers what was bound before.** -/
theorem withdraw_eq (dict : Dict α) (key : String) :
    dict.withdraw key = (dict.get? key, dict.erase key) := by
  simp only [withdraw, Entries.withdraw_eq]
  rfl

theorem entries_foldl_insert (pairs : List (String × α)) (dict : Dict α)
    (h : Ascending (dict.entries ++ pairs)) :
    (pairs.foldl (fun dict pair => dict.insert pair.1 pair.2) dict).entries
      = dict.entries ++ pairs := by
  induction pairs generalizing dict with
  | nil => simp
  | cons pair pairs ih =>
    have hbehind : ∀ e ∈ dict.entries, e.1 < pair.1 := fun e he =>
      (List.pairwise_append.mp h).2.2 e he pair (by simp)
    have hlast : (dict.insert pair.1 pair.2).entries = dict.entries ++ [pair] :=
      Entries.insert_of_forall_lt pair.2 hbehind
    rw [List.foldl_cons, ih, hlast, List.append_assoc, List.singleton_append]
    rw [hlast, List.append_assoc, List.singleton_append]
    exact h

/-- Pairs in strictly increasing order of their keys are the entries. -/
theorem entries_ofList {pairs : List (String × α)} (h : Ascending pairs) :
    (ofList pairs).entries = pairs :=
  entries_foldl_insert pairs empty h

theorem isEmpty_iff {dict : Dict α} : dict.isEmpty = true ↔ ∀ key, dict.get? key = none := by
  obtain ⟨entries, h⟩ := dict
  cases entries with
  | nil => exact ⟨fun _ _ => rfl, fun _ => rfl⟩
  | cons head rest =>
    refine ⟨fun hempty => by simp [isEmpty] at hempty, fun hnone => ?_⟩
    have hhead := hnone head.1
    simp [get?, Entries.get?] at hhead

theorem pairwise_keys (dict : Dict α) : dict.keys.Pairwise (· < ·) :=
  List.pairwise_map.mpr dict.ascending

theorem mem_keys_iff {dict : Dict α} {key : String} :
    key ∈ dict.keys ↔ ∃ value, dict.get? key = some value := by
  obtain ⟨entries, h⟩ := dict
  show key ∈ entries.map Prod.fst ↔ ∃ value, Entries.get? key entries = some value
  clear h
  induction entries with
  | nil => simp [Entries.get?]
  | cons head rest ih =>
    rw [List.map_cons, List.mem_cons, ih, Entries.get?]
    by_cases hkey : head.1 = key
    · simp [hkey]
    · simp [hkey, Ne.symm hkey]

/-- **A dictionary is determined by what looking up answers.** -/
theorem ext_get? {a b : Dict α} (h : ∀ key, a.get? key = b.get? key) : a = b := by
  obtain ⟨xs, hx⟩ := a
  obtain ⟨ys, hy⟩ := b
  have : xs = ys := Entries.ext_get? hx hy h
  subst this
  rfl

end Dict

end CheckScript
