import CheckScript.Proofs.Json.Reading
import CheckScript.ValueJson

/-!
# Texts that write a value

`Writes` is the grammar of the JSON texts of a value. Blanks may stand wherever the grammar has
them, and a string may be spelled in any way, so one value is written by many texts.

A text that writes a value is read as the tree of that value, if lists and records do not nest too
deep in it; otherwise it is not read at all (`parse?_of_writes`).
-/

namespace CheckScript

/-! ## Values by their parts -/

namespace Value

@[elab_as_elim]
theorem induction {motive : Value → Prop} (unit : motive .unit)
    (text : ∀ s, motive (.text s))
    (list : ∀ items, (∀ item ∈ items, motive item) → motive (.list items))
    (record : ∀ fields, (∀ field ∈ fields, motive field.2) → motive (.record fields))
    (value : Value) : motive value :=
  @Value.rec motive (fun items => ∀ item ∈ items, motive item)
    (fun fields => ∀ field ∈ fields, motive field.2) (fun field => motive field.2)
    unit text list record
    (fun _ hitem => absurd hitem List.not_mem_nil)
    (fun _ _ hitem hitems => List.forall_mem_cons.mpr ⟨hitem, hitems⟩)
    (fun _ hfield => absurd hfield List.not_mem_nil)
    (fun _ _ hfield hfields => List.forall_mem_cons.mpr ⟨hfield, hfields⟩)
    (fun _ _ hvalue => hvalue) value

mutual

/-- How deep lists and records nest in the value. -/
def depth : Value → Nat
  | .unit => 0
  | .text _ => 0
  | .list items => depthItems items + 1
  | .record fields => depthFields fields + 1

/-- How deep lists and records nest in the items. -/
def depthItems : List Value → Nat
  | [] => 0
  | item :: items => max item.depth (depthItems items)

/-- How deep lists and records nest in the values of the fields. -/
def depthFields : List (String × Value) → Nat
  | [] => 0
  | (_, value) :: fields => max value.depth (depthFields fields)

end

theorem depthItems_le_iff {items : List Value} {n : Nat} :
    depthItems items ≤ n ↔ ∀ item ∈ items, item.depth ≤ n := by
  induction items with
  | nil => simp [depthItems]
  | cons item items ih => rw [depthItems, Nat.max_le, ih, List.forall_mem_cons]

theorem depthFields_le_iff {fields : List (String × Value)} {n : Nat} :
    depthFields fields ≤ n ↔ ∀ field ∈ fields, field.2.depth ≤ n := by
  induction fields with
  | nil => simp [depthFields]
  | cons field fields ih => rw [depthFields, Nat.max_le, ih, List.forall_mem_cons]

theorem toJsonItems_eq_map (items : List Value) : toJsonItems items = items.map toJson := by
  induction items with
  | nil => rfl
  | cons item items ih => rw [toJsonItems, ih, List.map_cons]

theorem toJsonFields_eq_map (fields : List (String × Value)) :
    toJsonFields fields = fields.map fun field => (field.1, field.2.toJson) := by
  induction fields with
  | nil => rfl
  | cons field fields ih => rw [toJsonFields, ih, List.map_cons]

end Value

namespace Json

open Value (depthItems_le_iff depthFields_le_iff toJsonItems_eq_map toJsonFields_eq_map)

/-! ## The grammar -/

/-- Entries up to the closing bracket, with commas between them and blanks around them. -/
inductive Sequence {α : Type} (R : α → List Char → Prop) (closing : Char) :
    List α → List Char → Prop
  | last {x : α} {before w after : List Char} :
    AllSpace before → R x w → AllSpace after →
    Sequence R closing [x] (before ++ (w ++ (after ++ [closing])))
  | cons {x : α} {xs : List α} {before w after ws : List Char} :
    AllSpace before → R x w → AllSpace after → Sequence R closing xs ws →
    Sequence R closing (x :: xs) (before ++ (w ++ (after ++ ',' :: ws)))

/-- What stands behind an opening bracket. -/
inductive Entries {α : Type} (R : α → List Char → Prop) (closing : Char) :
    List α → List Char → Prop
  | none {gap : List Char} : AllSpace gap → Entries R closing [] (gap ++ [closing])
  | some {xs : List α} {ws : List Char} : Sequence R closing xs ws → Entries R closing xs ws

/-- A key in any spelling, a colon with blanks around it, and what writes the value. -/
inductive Member (R : Value → List Char → Prop) : String × Value → List Char → Prop
  | mk {key : String} {value : Value} {k before after w : List Char} :
    Spells CharSpelling key.toList k → AllSpace before → AllSpace after → R value w →
    Member R (key, value) ('"' :: (k ++ '"' :: (before ++ ':' :: (after ++ w))))

/-- The text writes the value. -/
inductive Writes : Value → List Char → Prop
  | unit : Writes .unit ['n', 'u', 'l', 'l']
  | text {s : String} {ws : List Char} :
    Spells CharSpelling s.toList ws → Writes (.text s) ('"' :: (ws ++ ['"']))
  | list {items : List Value} {ws : List Char} :
    Entries Writes ']' items ws → Writes (.list items) ('[' :: ws)
  | record {fields : List (String × Value)} {ws : List Char} :
    Entries (Member Writes) '\x7d' fields ws → Writes (.record fields) ('\x7b' :: ws)

/-- The text starts with a character that is neither a blank of the grammar nor a closing
bracket. -/
def StartsEntry (w : List Char) : Prop :=
  ∃ c rest, w = c :: rest ∧ isSpace c = false ∧ c ≠ ']' ∧ c ≠ '\x7d'

theorem Writes.startsEntry {v : Value} {w : List Char} (h : Writes v w) : StartsEntry w := by
  cases h <;> exact ⟨_, _, rfl, by decide⟩

theorem Member.startsEntry {R : Value → List Char → Prop} {field : String × Value} {w : List Char}
    (h : Member R field w) : StartsEntry w := by
  cases h
  exact ⟨_, _, rfl, by decide⟩

/-! ## Reading entries -/

section Entries

variable {α β : Type} {R : α → List Char → Prop} {closing : Char}
  (reader : List Char → Option (List β × List Char)) {tree : α → β} {level : α → Nat} {depth : Nat}
  {xs : List α} {ws : List Char}

/-- Before the first entry there is no closing bracket. -/
theorem Sequence.parts_readClosing (h : Sequence R closing xs ws)
    (hclosing : closing = ']' ∨ closing = '\x7d') (hR : ∀ x w, R x w → StartsEntry w)
    (rest : List Char) : parts (readClosing closing (ws ++ rest)) = none := by
  have hfirst : ∃ c tail, skipSpaces (ws ++ rest) = c :: tail ∧ c ≠ ']' ∧ c ≠ '\x7d' := by
    cases h with
    | last hbefore hx _ | cons hbefore hx _ _ =>
      obtain ⟨c, tail, rfl, hspace, hne⟩ := hR _ _ hx
      simp only [List.append_assoc, List.cons_append]
      exact ⟨c, _, skipSpaces_append_cons hbefore hspace _, hne⟩
  obtain ⟨c, tail, hskip, hlist, hrecord⟩ := hfirst
  rw [Json.parts_readClosing hskip, if_neg]
  rcases hclosing with rfl | rfl
  · exact hlist
  · exact hrecord

/-- A sequence is read entry by entry, if nothing in it nests too deep. -/
theorem reader_of_sequence (h : Sequence R closing xs ws)
    (hclosing : closing = ']' ∨ closing = '\x7d')
    (hentry : ∀ x ∈ xs, ∀ gap w rest, AllSpace gap → R x w →
      reader (gap ++ (w ++ rest))
        = if level x ≤ depth then entriesBehind closing reader (tree x) rest else none)
    (rest : List Char) :
    reader (ws ++ rest)
      = if ∀ x ∈ xs, level x ≤ depth then some (xs.map tree, rest) else none := by
  induction h with
  | @last x gap w after hgap hx hafter =>
    have htext : gap ++ (w ++ (after ++ [closing])) ++ rest
        = gap ++ (w ++ (after ++ closing :: rest)) := by simp
    rw [htext, hentry x (by simp) gap w _ hgap hx, entriesBehind_close hafter hclosing]
    simp
  | @cons x xs gap w after ws hgap hx hafter _ ih =>
    have htext : gap ++ (w ++ (after ++ ',' :: ws)) ++ rest
        = gap ++ (w ++ (after ++ ',' :: (ws ++ rest))) := by simp
    rw [htext, hentry x (by simp) gap w _ hgap hx, entriesBehind_comma hafter,
      ih fun y hy => hentry y (List.mem_cons_of_mem _ hy)]
    -- an entry that nests too deep ends the reading, whatever stands behind it
    by_cases hlevel : level x ≤ depth
    · simp [hlevel, apply_ite]
    · simp [hlevel]

theorem entriesIn_of_entries (h : Entries R closing xs ws)
    (hclosing : closing = ']' ∨ closing = '\x7d') (hR : ∀ x w, R x w → StartsEntry w)
    (hentry : ∀ x ∈ xs, ∀ gap w rest, AllSpace gap → R x w →
      reader (gap ++ (w ++ rest))
        = if level x ≤ depth then entriesBehind closing reader (tree x) rest else none)
    (rest : List Char) :
    entriesIn closing reader (ws ++ rest)
      = if ∀ x ∈ xs, level x ≤ depth then some (xs.map tree, rest) else none := by
  rw [entriesIn]
  cases h with
  | @none gap hgap =>
    have hspace := isSpace_of_closing hclosing
    rw [List.append_assoc, List.singleton_append,
      parts_readClosing (skipSpaces_append_cons hgap hspace rest), if_pos rfl]
    simp
  | some h =>
    rw [h.parts_readClosing hclosing hR]
    exact reader_of_sequence reader h hclosing hentry rest

end Entries

/-! ## Reading what is written -/

/-- Behind blanks the text is read as the tree of the value if that nests at most as deep as is
allowed, and otherwise it is not read. -/
def ReadsAs (v : Value) (w : List Char) : Prop :=
  ∀ (depth : Nat) (gap rest : List Char), AllSpace gap →
    parts (readValue depth (gap ++ (w ++ rest)))
      = if v.depth ≤ depth then some (v.toJson, rest) else none

theorem parts_readItems_of_readsAs {item : Value} {gap w : List Char} (h : ReadsAs item w)
    (hgap : AllSpace gap) (depth : Nat) (rest : List Char) :
    parts (readItems depth (gap ++ (w ++ rest)))
      = if item.depth ≤ depth then
          entriesBehind ']' (fun cs => parts (readItems depth cs)) item.toJson rest
        else none := by
  rw [parts_readItems, h depth gap rest hgap]
  by_cases hdepth : item.depth ≤ depth
  · simp only [hdepth, if_true]
  · simp only [hdepth, if_false]

theorem parts_readMembers_of_readsAs {field : String × Value} {gap w : List Char}
    (h : ∀ w, Writes field.2 w → ReadsAs field.2 w) (hw : Member Writes field w)
    (hgap : AllSpace gap) (depth : Nat) (rest : List Char) :
    parts (readMembers depth (gap ++ (w ++ rest)))
      = if field.2.depth ≤ depth then
          entriesBehind '\x7d' (fun cs => parts (readMembers depth cs))
            (field.1, field.2.toJson) rest
        else none := by
  obtain @⟨key, value, k, before, after, w, hkey, hbefore, hafter, hvalue⟩ := hw
  have htext : gap ++ ('"' :: (k ++ '"' :: (before ++ ':' :: (after ++ w))) ++ rest)
      = gap ++ '"' :: (k ++ '"' :: (before ++ ':' :: (after ++ (w ++ rest)))) := by simp
  have hname : parts
      (readKey (gap ++ '"' :: (k ++ '"' :: (before ++ ':' :: (after ++ (w ++ rest))))))
      = some (key, before ++ ':' :: (after ++ (w ++ rest))) := by
    rw [parts_readKey (skipSpaces_append_cons hgap (by decide) _), parts_readString,
      readBody_of_spells hkey]
    simp only [Option.map_some, String.ofList_toList]
  have hcolon := parts_readColon
    (skipSpaces_append_cons hbefore (c := ':') (by decide) (after ++ (w ++ rest)))
  rw [htext, parts_readMembers, hname]
  simp only [hcolon, h w hvalue depth after rest hafter]
  by_cases hdepth : value.depth ≤ depth
  · simp only [hdepth, if_true]
  · simp only [hdepth, if_false]

/-- **However a value is written, it is read back, if it does not nest deeper than is allowed.**
Otherwise nothing is read. -/
theorem readsAs_of_writes (v : Value) : ∀ w, Writes v w → ReadsAs v w := by
  induction v using Value.induction with
  | unit =>
    intro w h depth gap rest hgap
    cases h
    rw [Value.depth, if_pos (Nat.zero_le depth)]
    exact parts_readValue_null (skipSpaces_append_cons hgap (by decide) _)
  | text s =>
    intro w h depth gap rest hgap
    cases h with
    | @text _ ws hspells =>
      have hskip := skipSpaces_append_cons hgap (c := '"') (by decide) (ws ++ ['"'] ++ rest)
      rw [List.cons_append, parts_readValue_text hskip, parts_readString, List.append_assoc,
        List.singleton_append, readBody_of_spells hspells, Value.depth, if_pos (Nat.zero_le depth)]
      simp only [Option.map_some, String.ofList_toList, Value.toJson]
  | list items ih =>
    intro w h depth gap rest hgap
    cases h with
    | @list _ ws hitems =>
      have hskip := skipSpaces_append_cons hgap (c := '[') (by decide) (ws ++ rest)
      rw [List.cons_append]
      -- the bracket takes one level, and what stands in the list may use the others
      cases depth with
      | zero =>
        rw [readValue_zero_array hskip, Value.depth, if_neg (Nat.not_succ_le_zero _)]
        rfl
      | succ depth =>
        rw [parts_readValue_array hskip, Value.depth, Value.toJson,
          entriesIn_of_entries _ hitems (.inl rfl) (fun _ _ h => h.startsEntry)
            fun item hitem gap w rest hgap hw =>
              parts_readItems_of_readsAs (ih item hitem w hw) hgap depth rest]
        simp only [Nat.add_le_add_iff_right, depthItems_le_iff, toJsonItems_eq_map]
        split <;> rfl
  | record fields ih =>
    intro w h depth gap rest hgap
    cases h with
    | @record _ ws hfields =>
      have hskip := skipSpaces_append_cons hgap (c := '\x7b') (by decide) (ws ++ rest)
      rw [List.cons_append]
      cases depth with
      | zero =>
        rw [readValue_zero_object hskip, Value.depth, if_neg (Nat.not_succ_le_zero _)]
        rfl
      | succ depth =>
        rw [parts_readValue_object hskip, Value.depth, Value.toJson,
          entriesIn_of_entries _ hfields (.inr rfl) (fun _ _ h => h.startsEntry)
            fun field hfield gap w rest hgap hw =>
              parts_readMembers_of_readsAs (ih field hfield) hw hgap depth rest]
        simp only [Nat.add_le_add_iff_right, depthFields_le_iff, toJsonFields_eq_map]
        split <;> rfl

/-- **A text that writes a value, with any blanks around it, is read back up to the depth limit, and
beyond it is no JSON text.** -/
theorem parse?_of_writes {v : Value} {w before after : List Char} (h : Writes v w)
    (hbefore : AllSpace before) (hafter : AllSpace after) :
    parse? (String.ofList (before ++ (w ++ after)))
      = if v.depth ≤ maxDepth then some v.toJson else none := by
  rw [parse?_eq, String.toList_ofList, readsAs_of_writes v w h maxDepth before after hbefore]
  by_cases hdepth : v.depth ≤ maxDepth
  · simp [hdepth, skipSpaces_of_allSpace hafter]
  · simp [hdepth]

/-- **A text writes one tree only,** however deep it nests. -/
theorem toJson_eq_of_writes {v v' : Value} {w : List Char} (h : Writes v w) (h' : Writes v' w) :
    v.toJson = v'.toJson := by
  -- both are read from the text at a depth that is enough for both
  have hv := readsAs_of_writes v w h (max v.depth v'.depth) [] [] allSpace_nil
  have hv' := readsAs_of_writes v' w h' (max v.depth v'.depth) [] [] allSpace_nil
  rw [if_pos (Nat.le_max_left _ _)] at hv
  rw [if_pos (Nat.le_max_right _ _), hv] at hv'
  exact (Prod.mk.inj (Option.some.inj hv')).1

end Json

end CheckScript
