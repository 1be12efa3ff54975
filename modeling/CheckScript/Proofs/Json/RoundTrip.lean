import CheckScript.Cli.Program
import CheckScript.Proofs.Json.Grammar
import CheckScript.Proofs.Source.Lines

/-!
# Values survive as JSON

The compact text of a value and its text on lines of its own both write it, so both are read back
(`json_round_trip`). What a run prints as JSON can be given to another run as its input
(`value?_of_execute`).
-/

namespace CheckScript

namespace Json

open Value (toJsonItems_eq_map toJsonFields_eq_map)

/-! ## Texts of parts -/

theorem compactItems_eq_map (items : List Json) : compactItems items = items.map compact := by
  induction items with
  | nil => rfl
  | cons item items ih => rw [compactItems, ih, List.map_cons]

theorem compactMembers_eq_map (members : List (String × Json)) :
    compactMembers members
      = members.map fun member => quote member.1 ++ ':' :: compact member.2 := by
  induction members with
  | nil => rfl
  | cons member members ih => rw [compactMembers, ih, List.map_cons]

theorem prettyItems_eq_map (depth : Nat) (items : List Json) :
    prettyItems depth items = items.map (prettyAt depth) := by
  induction items with
  | nil => rfl
  | cons item items ih => rw [prettyItems, ih, List.map_cons]

theorem prettyMembers_eq_map (depth : Nat) (members : List (String × Json)) :
    prettyMembers depth members
      = members.map fun member => quote member.1 ++ ':' :: ' ' :: prettyAt depth member.2 := by
  induction members with
  | nil => rfl
  | cons member members ih => rw [prettyMembers, ih, List.map_cons]

/-! ## What is printed writes the value -/

theorem allSpace_newline (depth : Nat) : AllSpace (newline depth) := by
  intro c hc
  rcases List.mem_cons.mp hc with rfl | hc
  · rfl
  · rw [List.eq_of_mem_replicate hc]
    rfl

section Entries

variable {α : Type} {R : α → List Char → Prop} {closing : Char} {f : α → List Char} {xs : List α}

theorem sequence_separated {lead tail : List Char} (hlead : AllSpace lead) (htail : AllSpace tail)
    (hne : xs ≠ []) (h : ∀ x ∈ xs, R x (f x)) :
    Sequence R closing xs
      (lead ++ (separated (',' :: lead) (xs.map f) ++ (tail ++ [closing]))) := by
  induction xs with
  | nil => exact absurd rfl hne
  | cons x xs ih =>
    have hx := h x (List.mem_cons_self ..)
    cases xs with
    | nil => exact .last hlead hx htail
    | cons y ys =>
      -- the blanks behind a comma stand in front of the next entry
      have htext : lead ++ (separated (',' :: lead) ((x :: y :: ys).map f) ++ (tail ++ [closing]))
          = lead ++ (f x ++ ([] ++ ',' ::
            (lead ++ (separated (',' :: lead) ((y :: ys).map f) ++ (tail ++ [closing]))))) := by
        simp [separated]
      rw [htext]
      exact .cons hlead hx allSpace_nil
        (ih (List.cons_ne_nil y ys) fun x hx => h x (List.mem_cons_of_mem _ hx))

/-- Parts that are separated and enclosed in the same way are entries. -/
theorem entries_separated {lead tail : List Char} (hlead : AllSpace lead) (htail : AllSpace tail)
    (h : ∀ x ∈ xs, R x (f x)) :
    Entries R closing xs
      (lead ++ (separated (',' :: lead) (xs.map f) ++ (tail ++ [closing]))) := by
  by_cases hne : xs = []
  · subst hne
    have hnone : Entries R closing [] _ := .none (hlead.append htail)
    simpa [separated] using hnone
  · exact .some (sequence_separated hlead htail hne h)

theorem entries_bracketed (opening closing : Char) (depth : Nat) (h : ∀ x ∈ xs, R x (f x)) :
    ∃ ws, bracketed opening closing depth (xs.map f) = opening :: ws ∧ Entries R closing xs ws := by
  by_cases hne : xs = []
  · subst hne
    exact ⟨[closing], rfl, .none allSpace_nil⟩
  · have hentries : Entries R closing xs _ :=
      entries_separated (allSpace_newline (depth + 1)) (allSpace_newline depth) h
    refine ⟨_, ?_, hentries⟩
    rw [bracketed, if_neg (by simpa using hne)]
    simp

end Entries

theorem member_quote {key : String} {value : Value} {gap w : List Char} (hgap : AllSpace gap)
    (h : Writes value w) : Member Writes (key, value) (quote key ++ ':' :: (gap ++ w)) := by
  have hmember : Member Writes (key, value) _ :=
    .mk (spells_escape key.toList) allSpace_nil hgap h
  simpa [quote] using hmember

theorem writes_compact (v : Value) : Writes v v.toJson.compact := by
  induction v using Value.induction with
  | unit => exact .unit
  | text s => exact .text (spells_escape s.toList)
  | list items ih =>
    rw [Value.toJson, compact, compactItems_eq_map, toJsonItems_eq_map, List.map_map,
      List.cons_append]
    exact .list (entries_separated allSpace_nil allSpace_nil ih)
  | record fields ih =>
    rw [Value.toJson, compact, compactMembers_eq_map, toJsonFields_eq_map, List.map_map,
      List.cons_append]
    exact .record (entries_separated allSpace_nil allSpace_nil
      fun field hfield => member_quote allSpace_nil (ih field hfield))

theorem writes_prettyAt (v : Value) : ∀ depth, Writes v (prettyAt depth v.toJson) := by
  induction v using Value.induction with
  | unit => exact fun _ => .unit
  | text s => exact fun _ => .text (spells_escape s.toList)
  | list items ih =>
    intro depth
    obtain ⟨ws, htext, hitems⟩ := entries_bracketed '[' ']' depth
      fun item hitem => ih item hitem (depth + 1)
    rw [Value.toJson, prettyAt, prettyItems_eq_map, toJsonItems_eq_map, List.map_map]
    exact htext ▸ .list hitems
  | record fields ih =>
    intro depth
    have hgap : AllSpace [' '] := by decide
    obtain ⟨ws, htext, hfields⟩ := entries_bracketed '\x7b' '\x7d' depth
      fun field hfield => member_quote hgap (ih field hfield (depth + 1))
    rw [Value.toJson, prettyAt, prettyMembers_eq_map, toJsonFields_eq_map, List.map_map]
    exact htext ▸ .record hfields

/-! ## Compact texts have no controls -/

theorem mem_separated {sep : List Char} {texts : List (List Char)} {c : Char}
    (h : c ∈ separated sep texts) : c ∈ sep ∨ ∃ text ∈ texts, c ∈ text := by
  induction texts with
  | nil => exact absurd h List.not_mem_nil
  | cons text texts ih =>
    cases texts with
    | nil => exact .inr ⟨text, by simp, h⟩
    | cons next texts =>
      rw [separated, List.append_assoc, List.mem_append, List.mem_append] at h
      rcases h with h | h | h
      · exact .inr ⟨text, by simp, h⟩
      · exact .inl h
      · rcases ih h with h | ⟨text, htext, h⟩
        · exact .inl h
        · exact .inr ⟨text, List.mem_cons_of_mem _ htext, h⟩

theorem le_of_mem_enclosed {opening closing c : Char} {texts : List (List Char)}
    (hopening : 0x20 ≤ opening.toNat) (hclosing : 0x20 ≤ closing.toNat)
    (htexts : ∀ text ∈ texts, ∀ c ∈ text, 0x20 ≤ c.toNat)
    (hc : c ∈ opening :: separated [','] texts ++ [closing]) : 0x20 ≤ c.toNat := by
  rw [List.cons_append, List.mem_cons, List.mem_append, List.mem_singleton] at hc
  rcases hc with rfl | hc | rfl
  · exact hopening
  · rcases mem_separated hc with hc | ⟨text, htext, hc⟩
    · rw [List.mem_singleton.mp hc]
      decide
    · exact htexts text htext c hc
  · exact hclosing

theorem le_of_mem_compact (v : Value) : ∀ c ∈ v.toJson.compact, 0x20 ≤ c.toNat := by
  induction v using Value.induction with
  | unit =>
    have hall : (Value.unit.toJson.compact).all fun c => decide (0x20 ≤ c.toNat) := by decide
    simpa using hall
  | text s => exact fun c hc => le_of_mem_quote hc
  | list items ih =>
    intro c hc
    rw [Value.toJson, compact, compactItems_eq_map, toJsonItems_eq_map, List.map_map] at hc
    exact le_of_mem_enclosed (by decide) (by decide) (by simpa using ih) hc
  | record fields ih =>
    intro c hc
    rw [Value.toJson, compact, compactMembers_eq_map, toJsonFields_eq_map, List.map_map] at hc
    refine le_of_mem_enclosed (by decide) (by decide) (fun text htext d hd => ?_) hc
    obtain ⟨field, hfield, rfl⟩ := List.mem_map.mp htext
    rcases List.mem_append.mp hd with hd | hd
    · exact le_of_mem_quote hd
    · rcases List.mem_cons.mp hd with rfl | hd
      · decide
      · exact ih field hfield d hd

end Json

/-! ## There and back -/

namespace Value

mutual

/-- Trees keep all of a value. -/
theorem ofJson_toJson : ∀ {v : Value}, v.Canonical → ofJson v.toJson = v
  | .unit, _ => rfl
  | .text _, _ => rfl
  | .list items, h => by
    rw [Canonical] at h
    rw [toJson, ofJson, ofJsonItems_toJsonItems h]
  | .record fields, h => by
    rw [Canonical] at h
    rw [toJson, ofJson, ofJsonMembers_toJsonFields h.2, ofDict, Dict.entries_ofList h.1]

theorem ofJsonItems_toJsonItems :
    ∀ {items : List Value}, CanonicalItems items → ofJsonItems (toJsonItems items) = items
  | [], _ => rfl
  | item :: items, h => by
    rw [CanonicalItems] at h
    rw [toJsonItems, ofJsonItems, ofJson_toJson h.1, ofJsonItems_toJsonItems h.2]

theorem ofJsonMembers_toJsonFields :
    ∀ {fields : List (String × Value)}, CanonicalFields fields →
      ofJsonMembers (toJsonFields fields) = fields
  | [], _ => rfl
  | (key, value) :: fields, h => by
    rw [CanonicalFields] at h
    rw [toJsonFields, ofJsonMembers, ofJson_toJson h.1, ofJsonMembers_toJsonFields h.2]

end

/-- A text that writes a value, with any blanks around it, is that value again if it does not nest
deeper than may be read. -/
theorem parseJson?_of_writes {v : Value} (h : v.Canonical) {w before after : List Char}
    (hw : Json.Writes v w) (hbefore : Json.AllSpace before) (hafter : Json.AllSpace after)
    (hdepth : v.depth ≤ Json.maxDepth) :
    parseJson? (String.ofList (before ++ (w ++ after))) = some v := by
  rw [parseJson?, Json.parse?_of_writes hw hbefore hafter, if_pos hdepth, Option.map_some,
    ofJson_toJson h]

theorem display_eq_compact {v : Value} (h : v.kind = .list ∨ v.kind = .record) :
    v.display = String.ofList v.toJson.compact := by
  cases v with
  | unit | text => rcases h with h | h <;> cases h
  | list | record => rfl

end Value

/-- What a run prints as JSON can be given to another run, and is the value that the run ended
with. -/
theorem Cli.value?_of_execute {step : Step} {input : RunInput} {start v : Value}
    (hinput : input.value? = some start) (hrun : step.result start = .ok v) (h : v.Canonical)
    (hdepth : v.depth ≤ Json.maxDepth) :
    (RunInput.json (execute step input true).stdout).value? = some v := by
  have hstdout : (execute step input true).stdout
      = String.ofList ([] ++ (v.toJson.pretty ++ ['\n'])) := by
    rw [execute, hinput]
    simp only [hrun, if_true, Output.printed, Output.line, Value.displayPretty, List.nil_append,
      String.ofList_append]
  rw [hstdout]
  exact Value.parseJson?_of_writes h (Json.writes_prettyAt v 0) Json.allSpace_nil (by decide) hdepth

/-- **Values survive as JSON.** Up to 127 lists and records deep, the compact text of a value and
its text on lines of its own are both read back as the value; what nests deeper is no JSON text to
the reader. The tree of a value is the value again however deep it nests. A list or record is
displayed as its compact text, which is a single line without controls. -/
theorem json_round_trip {v : Value} (h : v.Canonical) :
    (v.depth ≤ 127 →
      Value.parseJson? (String.ofList v.toJson.compact) = some v
      ∧ Value.parseJson? v.displayPretty = some v)
    ∧ (127 < v.depth →
      Json.parse? (String.ofList v.toJson.compact) = none ∧ Json.parse? v.displayPretty = none)
    ∧ Value.ofJson v.toJson = v
    ∧ (v.kind = .list ∨ v.kind = .record →
      v.display = String.ofList v.toJson.compact
      ∧ (∀ c ∈ v.display.toList, 0x20 ≤ c.toNat)
      ∧ rawLines v.display = [v.display.toList]) := by
  have hcompact := Json.parse?_of_writes (Json.writes_compact v) Json.allSpace_nil Json.allSpace_nil
  have hpretty := Json.parse?_of_writes (Json.writes_prettyAt v 0) Json.allSpace_nil
    Json.allSpace_nil
  rw [List.nil_append, List.append_nil, Json.maxDepth] at hcompact hpretty
  have hvalue := Value.ofJson_toJson h
  refine ⟨fun hdepth => ?_, fun hdepth => ?_, hvalue, fun hkind => ?_⟩
  · rw [if_pos hdepth] at hcompact hpretty
    constructor
    · rw [Value.parseJson?, hcompact, Option.map_some, hvalue]
    · rw [Value.parseJson?, Value.displayPretty, Json.pretty, hpretty, Option.map_some, hvalue]
  · rw [if_neg (Nat.not_le.mpr hdepth)] at hcompact hpretty
    exact ⟨hcompact, hpretty⟩
  · have hdisplay := Value.display_eq_compact hkind
    have hcontrols : ∀ c ∈ v.display.toList, 0x20 ≤ c.toNat := by
      rw [hdisplay, String.toList_ofList]
      exact Json.le_of_mem_compact v
    -- a newline would be a control
    refine ⟨hdisplay, hcontrols, rawLines_of_not_mem fun hnewline => ?_⟩
    exact absurd (hcontrols '\n' hnewline) (by decide)

theorem json_round_trip_nested :
    let v := Value.record [("\"\n", .list [.unit, .text "\x01"]), ("a", .record [])]
    let text := "\x7b\"\\\"\\n\":[null,\"\\u0001\"],\"a\":\x7b\x7d\x7d"
    let deep := Nat.repeat (fun v => Value.list [v]) 128 .unit
    v.display = text ∧ Value.parseJson? text = some v ∧ Value.parseJson? v.displayPretty = some v
    ∧ Json.parse? deep.displayPretty = none ∧ Value.ofJson deep.toJson = deep := by
  intro v text deep
  have hv : v.Canonical := by
    simp only [v, Value.Canonical, Value.CanonicalFields, Value.CanonicalItems, Ascending]
    decide
  have hnested : ∀ n, (Nat.repeat (fun v => Value.list [v]) n .unit).Canonical := by
    intro n
    induction n with
    | zero => simp [Nat.repeat, Value.Canonical]
    | succ n ih => simpa [Nat.repeat, Value.Canonical, Value.CanonicalItems] using ih
  obtain ⟨hread, -, -, hdisplay⟩ := json_round_trip hv
  obtain ⟨-, hrejected, htree, -⟩ := json_round_trip (hnested 128)
  have htext : String.ofList v.toJson.compact = text := by decide +kernel
  obtain ⟨hcompact, hpretty⟩ := hread (by decide)
  rw [htext] at hcompact
  exact ⟨(hdisplay (.inr rfl)).1.trans htext, hcompact, hpretty,
    (hrejected (by decide +kernel)).2, htree⟩

end CheckScript
