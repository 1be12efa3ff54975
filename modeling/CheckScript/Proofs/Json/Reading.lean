import CheckScript.Json.Reader
import CheckScript.Proofs.Json.Quoted
import Mathlib.Data.List.TakeWhile

/-!
# The readers of JSON as equations

The readers carry the fact that they leave a shorter text, which no statement about what they read
has to mention. `parts` forgets it. The equations here say of each reader what it reads and what it
leaves in terms of the readers it is made of.
-/

namespace CheckScript.Json

open Text

/-! ## Blanks of the grammar -/

/-- Every character is a blank of the grammar. -/
def AllSpace (cs : List Char) : Prop := ∀ c ∈ cs, isSpace c = true

instance (cs : List Char) : Decidable (AllSpace cs) :=
  List.decidableBAll (fun c => isSpace c = true) cs

theorem allSpace_nil : AllSpace [] := fun _ h => absurd h List.not_mem_nil

theorem AllSpace.append {cs ds : List Char} (hc : AllSpace cs) (hd : AllSpace ds) :
    AllSpace (cs ++ ds) :=
  List.forall_mem_append.mpr ⟨hc, hd⟩

theorem skipSpaces_of_allSpace {cs : List Char} (h : AllSpace cs) : skipSpaces cs = [] :=
  List.dropWhile_eq_nil_iff.mpr h

theorem skipSpaces_append_cons {gap : List Char} (hgap : AllSpace gap) {c : Char}
    (hc : isSpace c = false) (rest : List Char) : skipSpaces (gap ++ c :: rest) = c :: rest := by
  rw [skipSpaces, List.dropWhile_append_of_pos hgap, List.dropWhile_cons_of_neg (by simp [hc])]

theorem isSpace_of_closing {c : Char} (h : c = ']' ∨ c = '\x7d') : isSpace c = false := by
  rcases h with rfl | rfl
  · decide
  · decide

/-! ## Parts of what was read -/

variable {α β : Type} {cs rest : List Char} {depth : Nat}

/-- What was read and what is left. -/
def parts (r : Option (Read α cs)) : Option (α × List Char) :=
  r.map fun r => (r.value, r.rest)

theorem parts_widen {ds : List Char} (r : Option (Read α cs)) (h : cs.length ≤ ds.length) :
    parts (r.map fun r => r.widen h) = parts r := by
  cases r <;> rfl

theorem parts_map_widen {ds : List Char} (f : α → β) (r : Option (Read α cs))
    (h : cs.length ≤ ds.length) :
    parts (r.map fun r => (r.map f).widen h) = (parts r).map fun (a, rest) => (f a, rest) := by
  cases r <;> rfl

theorem parts_readString (cs : List Char) :
    parts (readString cs) = (readBody cs).map fun (body, rest) => (String.ofList body, rest) := by
  unfold readString
  split
  · next h => simp only [parts, Option.map_some, h]
  · next h => simp only [parts, Option.map_none, h]

theorem parts_readName (n : Char) (ns : List Char) (value : Json) (rest : List Char) :
    parts (readName n ns value (n :: ns ++ rest)) = some (value, rest) := by
  have hstrip := stripPrefix?_append (n :: ns) rest
  unfold readName
  split
  · next h =>
    rw [hstrip] at h
    cases h
    rfl
  · next h =>
    rw [hstrip] at h
    cases h

theorem parts_readScalar_null (rest : List Char) :
    parts (readScalar (['n', 'u', 'l', 'l'] ++ rest)) = some (.null, rest) := by
  have hname := parts_readName 'n' ['u', 'l', 'l'] .null rest
  rw [readScalar]
  cases hread : readName 'n' ['u', 'l', 'l'] .null ('n' :: ['u', 'l', 'l'] ++ rest) with
  | none =>
    rw [hread] at hname
    cases hname
  | some r =>
    rw [hread] at hname
    exact hname

theorem parts_readClosing {c closing : Char} (h : skipSpaces cs = c :: rest) :
    parts (readClosing closing cs) = if c = closing then some ((), rest) else none := by
  unfold readClosing
  split
  · next h' => rw [h] at h'; cases h'
  · next h' =>
    rw [h] at h'
    cases h'
    split <;> rfl

theorem parts_readColon (h : skipSpaces cs = ':' :: rest) :
    parts (readColon cs) = some ((), rest) := by
  unfold readColon
  split
  · next h' =>
    rw [h] at h'
    cases h'
    rfl
  · next h' => exact absurd h (h' _)

theorem parts_readJoint {c closing : Char} (h : skipSpaces cs = c :: rest) :
    parts (readJoint closing cs)
      = if c = ',' then some (.comma, rest)
        else if c = closing then some (.close, rest) else none := by
  unfold readJoint
  split
  · next h' => rw [h] at h'; cases h'
  · next h' =>
    rw [h] at h'
    cases h'
    simp only
    split
    · rfl
    · split <;> rfl

/-- What is read behind an entry: no others if the bracket closes, and what follows a comma. -/
def entriesBehind (closing : Char) (reader : List Char → Option (List α × List Char)) (entry : α)
    (cs : List Char) : Option (List α × List Char) :=
  match parts (readJoint closing cs) with
  | none => none
  | some (.close, rest) => some ([entry], rest)
  | some (.comma, rest) => (reader rest).map fun (entries, rest) => (entry :: entries, rest)

section EntriesBehind

variable {closing : Char} {reader : List Char → Option (List α × List Char)} {entry : α}
  {gap : List Char}

theorem entriesBehind_comma (hgap : AllSpace gap) (rest : List Char) :
    entriesBehind closing reader entry (gap ++ ',' :: rest)
      = (reader rest).map fun (entries, rest) => (entry :: entries, rest) := by
  rw [entriesBehind, parts_readJoint (skipSpaces_append_cons hgap (by decide) rest), if_pos rfl]

theorem entriesBehind_close (hgap : AllSpace gap) (hclosing : closing = ']' ∨ closing = '\x7d')
    (rest : List Char) :
    entriesBehind closing reader entry (gap ++ closing :: rest) = some ([entry], rest) := by
  have hcomma : closing ≠ ',' := by rcases hclosing with rfl | rfl <;> decide
  rw [entriesBehind,
    parts_readJoint (skipSpaces_append_cons hgap (isSpace_of_closing hclosing) rest),
    if_neg hcomma, if_pos rfl]

/-- What is read behind an opening bracket: nothing if it closes at once, and otherwise entries. -/
def entriesIn (closing : Char) (reader : List Char → Option (List α × List Char))
    (cs : List Char) : Option (List α × List Char) :=
  match parts (readClosing closing cs) with
  | some (_, rest) => some ([], rest)
  | none => reader cs

end EntriesBehind

theorem parts_readKey (h : skipSpaces cs = '"' :: rest) :
    parts (readKey cs) = parts (readString rest) := by
  unfold readKey
  split
  · next h' =>
    rw [h] at h'
    cases h'
    exact parts_widen _ _
  · next h' => exact absurd h (h' _)

/-! ## Values -/

theorem parts_readValue_text (h : skipSpaces cs = '"' :: rest) :
    parts (readValue depth cs)
      = (parts (readString rest)).map fun (s, rest) => (.text s, rest) := by
  rw [readValue]
  split
  · next h' => rw [h] at h'; cases h'
  · next h' =>
    rw [h] at h'
    cases h'
    rw [if_pos rfl]
    exact parts_map_widen _ _ _

theorem parts_readValue_null (h : skipSpaces cs = ['n', 'u', 'l', 'l'] ++ rest) :
    parts (readValue depth cs) = some (.null, rest) := by
  rw [readValue]
  split
  · next h' => rw [h] at h'; cases h'
  · next h' =>
    rw [h] at h'
    cases h'
    rw [if_neg (by decide), if_neg (by decide), if_neg (by decide)]
    exact (parts_widen _ _).trans (parts_readScalar_null rest)

/-- An array holds what is read between its brackets; at depth 0 there is none. -/
theorem parts_readValue_array (h : skipSpaces cs = '[' :: rest) :
    parts (readValue (depth + 1) cs)
      = (entriesIn ']' (fun cs => parts (readItems depth cs)) rest).map fun (items, rest) =>
        (.array items, rest) := by
  rw [readValue]
  split
  · next h' => rw [h] at h'; cases h'
  · next h' =>
    rw [h] at h'
    cases h'
    rw [if_neg (by decide), if_pos rfl, entriesIn]
    simp only
    cases readClosing ']' rest with
    | some r => rfl
    | none => exact parts_map_widen _ _ _

theorem readValue_zero_array (h : skipSpaces cs = '[' :: rest) : readValue 0 cs = none := by
  rw [readValue]
  split
  · rfl
  · next h' =>
    rw [h] at h'
    cases h'
    rw [if_neg (by decide), if_pos rfl]

theorem parts_readItems :
    parts (readItems depth cs)
      = match parts (readValue depth cs) with
        | none => none
        | some (item, rest) =>
          entriesBehind ']' (fun cs => parts (readItems depth cs)) item rest := by
  rw [readItems]
  cases readValue depth cs with
  | none => rfl
  | some r =>
    obtain ⟨item, rest, h⟩ := r
    simp only [parts, Option.map_some, entriesBehind]
    cases readJoint ']' rest with
    | none => rfl
    | some r =>
      obtain ⟨joint, rest', h'⟩ := r
      cases joint with
      | close => rfl
      | comma => exact parts_map_widen _ _ _

/-- An object holds what is read between its brackets; at depth 0 there is none. -/
theorem parts_readValue_object (h : skipSpaces cs = '\x7b' :: rest) :
    parts (readValue (depth + 1) cs)
      = (entriesIn '\x7d' (fun cs => parts (readMembers depth cs)) rest).map fun (members, rest) =>
        (.object members, rest) := by
  rw [readValue]
  split
  · next h' => rw [h] at h'; cases h'
  · next h' =>
    rw [h] at h'
    cases h'
    rw [if_neg (by decide), if_neg (by decide), if_pos rfl, entriesIn]
    simp only
    cases readClosing '\x7d' rest with
    | some r => rfl
    | none => exact parts_map_widen _ _ _

theorem readValue_zero_object (h : skipSpaces cs = '\x7b' :: rest) : readValue 0 cs = none := by
  rw [readValue]
  split
  · rfl
  · next h' =>
    rw [h] at h'
    cases h'
    rw [if_neg (by decide), if_neg (by decide), if_pos rfl]

theorem parts_readMembers :
    parts (readMembers depth cs)
      = match parts (readKey cs) with
        | none => none
        | some (key, rest) =>
          match parts (readColon rest) with
          | none => none
          | some (_, rest) =>
            match parts (readValue depth rest) with
            | none => none
            | some (value, rest) =>
              entriesBehind '\x7d' (fun cs => parts (readMembers depth cs)) (key, value) rest := by
  rw [readMembers]
  cases readKey cs with
  | none => rfl
  | some r =>
    obtain ⟨key, rest, h⟩ := r
    simp only [parts, Option.map_some]
    cases readColon rest with
    | none => rfl
    | some r =>
      obtain ⟨_, rest', h'⟩ := r
      simp only [Option.map_some]
      cases readValue depth rest' with
      | none => rfl
      | some r =>
        obtain ⟨value, rest'', h''⟩ := r
        simp only [Option.map_some, entriesBehind, parts]
        cases readJoint '\x7d' rest'' with
        | none => rfl
        | some r =>
          obtain ⟨joint, rest₃, h₃⟩ := r
          cases joint with
          | close => rfl
          | comma => exact parts_map_widen _ _ _

theorem parse?_eq (text : String) :
    parse? text
      = match parts (readValue maxDepth text.toList) with
        | none => none
        | some (json, rest) => if (skipSpaces rest).isEmpty then some json else none := by
  rw [parse?]
  cases readValue maxDepth text.toList <;> rfl

end CheckScript.Json
