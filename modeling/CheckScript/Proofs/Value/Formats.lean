import CheckScript.Proofs.Json.Grammar
import CheckScript.Proofs.Value.Canonical

/-!
# Values from TOML and from JSON

Data that both formats can write is the same value in both (`ofToml_toToml`). JSON has a text for
every value, but TOML has none for the unit value: the values that come from TOML are those without
it (`exists_ofToml_eq_iff`).

## Main statement

* `toml_values_unitFree`: both facts, and what they mean for tests. The result of a script can be
  asked for as an expected output iff there is no unit value in it.
-/

namespace CheckScript

/-! ## Data that both formats can write -/

/-- Data that can be written as TOML and as JSON. -/
inductive Plain where
  | text (s : String)
  | boolean (b : Bool)
  | integer (n : Int64)
  | array (items : List Plain)
  | table (entries : List (String × Plain))

namespace Plain

mutual

/-- The data as TOML. -/
def toToml : Plain → Toml
  | .text s => .text s
  | .boolean b => .boolean b
  | .integer n => .integer n.toInt
  | .array items => .array (toTomlItems items)
  | .table entries => .table (toTomlEntries entries)

/-- The items of an array as TOML. -/
def toTomlItems : List Plain → List Toml
  | [] => []
  | item :: items => item.toToml :: toTomlItems items

/-- The entries of a table as TOML. -/
def toTomlEntries : List (String × Plain) → List (String × Toml)
  | [] => []
  | (key, data) :: entries => (key, data.toToml) :: toTomlEntries entries

end

mutual

/-- The data as JSON. -/
def toJson : Plain → Json
  | .text s => .text s
  | .boolean b => .bool b
  | .integer n => .number (.int n.toInt)
  | .array items => .array (toJsonItems items)
  | .table entries => .object (toJsonMembers entries)

/-- The items of an array as JSON. -/
def toJsonItems : List Plain → List Json
  | [] => []
  | item :: items => item.toJson :: toJsonItems items

/-- The entries of a table as JSON. -/
def toJsonMembers : List (String × Plain) → List (String × Json)
  | [] => []
  | (key, data) :: entries => (key, data.toJson) :: toJsonMembers entries

end

end Plain

namespace Value

mutual

/-- **Data is the same value in both formats.** -/
theorem ofToml_toToml : ∀ data : Plain, ofToml data.toToml = ofJson data.toJson
  | .text s => rfl
  | .boolean b => by cases b <;> rfl
  | .integer n => by
    simp only [Plain.toToml, Plain.toJson, ofToml, ofJson, Toml.scalarText, Json.Number.render,
      String.ofList_toList]
  | .array items => by
    rw [Plain.toToml, Plain.toJson, ofToml, ofJson, ofTomlItems_toTomlItems items]
  | .table entries => by
    rw [Plain.toToml, Plain.toJson, ofToml, ofJson, ofTomlEntries_toTomlEntries entries]

theorem ofTomlItems_toTomlItems :
    ∀ items : List Plain,
      ofTomlItems (Plain.toTomlItems items) = ofJsonItems (Plain.toJsonItems items)
  | [] => rfl
  | item :: items => by
    rw [Plain.toTomlItems, Plain.toJsonItems, ofTomlItems, ofJsonItems, ofToml_toToml item,
      ofTomlItems_toTomlItems items]

theorem ofTomlEntries_toTomlEntries :
    ∀ entries : List (String × Plain),
      ofTomlEntries (Plain.toTomlEntries entries) = ofJsonMembers (Plain.toJsonMembers entries)
  | [] => rfl
  | (key, data) :: entries => by
    rw [Plain.toTomlEntries, Plain.toJsonMembers, ofTomlEntries, ofJsonMembers, ofToml_toToml data,
      ofTomlEntries_toTomlEntries entries]

end

/-! ## Values without the unit value -/

/-- There is no unit value in the value, at any depth. -/
inductive UnitFree : Value → Prop
  | text (s : String) : UnitFree (.text s)
  | list {items : List Value} : (∀ item ∈ items, UnitFree item) → UnitFree (.list items)
  | record {fields : List (String × Value)} :
    (∀ field ∈ fields, UnitFree field.2) → UnitFree (.record fields)

theorem not_unitFree_unit : ¬Value.unit.UnitFree := nofun

theorem unitFree_list_iff {items : List Value} :
    (Value.list items).UnitFree ↔ ∀ item ∈ items, item.UnitFree :=
  ⟨fun | .list h => h, .list⟩

theorem unitFree_record_iff {fields : List (String × Value)} :
    (Value.record fields).UnitFree ↔ ∀ field ∈ fields, field.2.UnitFree :=
  ⟨fun | .record h => h, .record⟩

end Value

/-- In no table of the TOML value, at any depth, is a key there twice. -/
inductive Toml.DistinctKeys : Toml → Prop
  | text (s : String) : DistinctKeys (.text s)
  | integer (n : Int) : DistinctKeys (.integer n)
  | float (x : Toml.Float) : DistinctKeys (.float x)
  | boolean (b : Bool) : DistinctKeys (.boolean b)
  | moment (m : Toml.Moment) : DistinctKeys (.moment m)
  | array {items : List Toml} : (∀ item ∈ items, DistinctKeys item) → DistinctKeys (.array items)
  | table {entries : List (String × Toml)} :
    (entries.map Prod.fst).Nodup → (∀ entry ∈ entries, DistinctKeys entry.2) →
    DistinctKeys (.table entries)

@[elab_as_elim]
theorem Toml.induction {motive : Toml → Prop} (text : ∀ s, motive (.text s))
    (integer : ∀ n, motive (.integer n)) (float : ∀ x, motive (.float x))
    (boolean : ∀ b, motive (.boolean b)) (moment : ∀ m, motive (.moment m))
    (array : ∀ items, (∀ item ∈ items, motive item) → motive (.array items))
    (table : ∀ entries, (∀ entry ∈ entries, motive entry.2) → motive (.table entries))
    (toml : Toml) : motive toml :=
  @Toml.rec motive (fun items => ∀ item ∈ items, motive item)
    (fun entries => ∀ entry ∈ entries, motive entry.2) (fun entry => motive entry.2)
    text integer float boolean moment array table
    (fun _ hitem => absurd hitem List.not_mem_nil)
    (fun _ _ hitem hitems => List.forall_mem_cons.mpr ⟨hitem, hitems⟩)
    (fun _ hentry => absurd hentry List.not_mem_nil)
    (fun _ _ hentry hentries => List.forall_mem_cons.mpr ⟨hentry, hentries⟩)
    (fun _ _ htoml => htoml) toml

namespace Value

/-! ### From TOML -/

theorem ofTomlItems_eq_map (items : List Toml) : ofTomlItems items = items.map ofToml := by
  induction items with
  | nil => rfl
  | cons item items ih => rw [ofTomlItems, ih, List.map_cons]

theorem ofTomlEntries_eq_map (entries : List (String × Toml)) :
    ofTomlEntries entries = entries.map fun entry => (entry.1, ofToml entry.2) := by
  induction entries with
  | nil => rfl
  | cons entry entries ih => rw [ofTomlEntries, ih, List.map_cons]

/-- The record of some pairs has no unit value in it if none of the pairs has. -/
theorem unitFree_ofDict_ofList {pairs : List (String × Value)}
    (h : ∀ pair ∈ pairs, pair.2.UnitFree) : (ofDict (Dict.ofList pairs)).UnitFree :=
  .record fun _ hfield =>
    h _ (Dict.get?_ofList_eq_some_iff.mp (Dict.get?_eq_some_iff_mem.mpr hfield)).mem

/-- **What comes from TOML is canonical and has no unit value in it.** -/
theorem canonical_unitFree_ofToml (toml : Toml) :
    (ofToml toml).Canonical ∧ (ofToml toml).UnitFree := by
  induction toml using Toml.induction with
  | text | integer | float | boolean | moment =>
    rw [ofToml]
    · exact ⟨by simp [Canonical], .text _⟩
    all_goals
      intro _ h
      cases h
  | array items ih =>
    rw [ofToml, ofTomlItems_eq_map, canonical_list_iff, unitFree_list_iff]
    simp only [List.forall_mem_map]
    exact ⟨fun item hitem => (ih item hitem).1, fun item hitem => (ih item hitem).2⟩
  | table entries ih =>
    rw [ofToml, ofTomlEntries_eq_map]
    constructor
    · refine canonical_ofDict_ofList ?_
      simp only [List.forall_mem_map]
      exact fun entry hentry => (ih entry hentry).1
    · refine unitFree_ofDict_ofList ?_
      simp only [List.forall_mem_map]
      exact fun entry hentry => (ih entry hentry).2

/-! ### To TOML -/

mutual

/-- A value as TOML: texts, arrays and tables. There is nothing for the unit value, which becomes an
empty text. -/
def toToml : Value → Toml
  | .unit => .text ""
  | .text s => .text s
  | .list items => .array (toTomlItems items)
  | .record fields => .table (toTomlEntries fields)

/-- The items of a list as TOML. -/
def toTomlItems : List Value → List Toml
  | [] => []
  | item :: items => item.toToml :: toTomlItems items

/-- The fields of a record as TOML. -/
def toTomlEntries : List (String × Value) → List (String × Toml)
  | [] => []
  | (key, value) :: fields => (key, value.toToml) :: toTomlEntries fields

end

theorem toTomlItems_eq_map (items : List Value) : toTomlItems items = items.map toToml := by
  induction items with
  | nil => rfl
  | cons item items ih => rw [toTomlItems, ih, List.map_cons]

theorem toTomlEntries_eq_map (fields : List (String × Value)) :
    toTomlEntries fields = fields.map fun field => (field.1, field.2.toToml) := by
  induction fields with
  | nil => rfl
  | cons field fields ih => rw [toTomlEntries, ih, List.map_cons]

/-- **A canonical value without the unit value comes from TOML.** -/
theorem ofToml_toToml_of_unitFree {v : Value} (hcanonical : v.Canonical) (hfree : v.UnitFree) :
    v.toToml.DistinctKeys ∧ ofToml v.toToml = v := by
  induction v using Value.induction with
  | unit => exact absurd hfree not_unitFree_unit
  | text s => exact ⟨.text s, rfl⟩
  | list items ih =>
    rw [canonical_list_iff] at hcanonical
    rw [unitFree_list_iff] at hfree
    rw [toToml, ofToml, toTomlItems_eq_map, ofTomlItems_eq_map]
    constructor
    · refine .array ?_
      simp only [List.forall_mem_map]
      exact fun item hitem => (ih item hitem (hcanonical item hitem) (hfree item hitem)).1
    · rw [List.map_map]
      have hitems : items.map (ofToml ∘ toToml) = items.map id :=
        List.map_congr_left fun item hitem =>
          (ih item hitem (hcanonical item hitem) (hfree item hitem)).2
      rw [hitems, List.map_id]
  | record fields ih =>
    rw [Canonical, canonicalFields_iff] at hcanonical
    rw [unitFree_record_iff] at hfree
    obtain ⟨hascending, hcanonical⟩ := hcanonical
    have hback : ∀ field ∈ fields, field.2.toToml.DistinctKeys ∧ ofToml field.2.toToml = field.2 :=
      fun field hfield => ih field hfield (hcanonical field hfield) (hfree field hfield)
    rw [toToml, ofToml, toTomlEntries_eq_map, ofTomlEntries_eq_map]
    constructor
    · refine .table ?_ ?_
      · rw [List.map_map]
        exact (Dict.mk fields hascending).nodup_keys
      · simp only [List.forall_mem_map]
        exact fun field hfield => (hback field hfield).1
    · have hfields : (fields.map fun field => (field.1, ofToml field.2.toToml)) = fields.map id :=
        List.map_congr_left fun field hfield => by rw [(hback field hfield).2, id]
      rw [List.map_map]
      show ofDict (Dict.ofList (fields.map fun field => (field.1, ofToml field.2.toToml))) = _
      rw [hfields, List.map_id, ofDict, Dict.entries_ofList hascending]

theorem exists_ofToml_eq_iff {v : Value} :
    (∃ toml : Toml, toml.DistinctKeys ∧ ofToml toml = v) ↔ v.Canonical ∧ v.UnitFree := by
  constructor
  · rintro ⟨toml, -, rfl⟩
    exact canonical_unitFree_ofToml toml
  · rintro ⟨hcanonical, hfree⟩
    exact ⟨v.toToml, ofToml_toToml_of_unitFree hcanonical hfree⟩

end Value

/-! ## Expected outputs -/

namespace TestHeader

/-- The header of a test that is on the same input and expects this output. -/
def expecting (header : TestHeader) (toml : Toml) : TestHeader :=
  { header with output := some toml, error := none, compileError := false }

theorem canonical_inputValue (header : TestHeader) : header.inputValue.Canonical := by
  unfold inputValue
  cases header.input with
  | none => simp [Value.Canonical]
  | some toml => exact (Value.canonical_unitFree_ofToml toml).1

/-- A test that expects an output passes iff its script has this result. -/
theorem verdict_expecting_eq_none_iff {header : TestHeader} {source : String} {registry : Registry}
    {v : Value} (h : runScript source registry header.inputValue = .ok v) (toml : Toml) :
    (header.expecting toml).verdict source registry = none ↔ v = Value.ofToml toml := by
  have hrun : runScript source registry (header.expecting toml).inputValue = .ok v := h
  rw [verdict_eq_none_iff, hrun, metBy_ok_iff]
  simp [expecting]

end TestHeader

/-- **TOML and JSON say the same, except that TOML cannot say nothing.** Data that both can write is
the same value in both. A value comes from a TOML value, in which no table has a key twice, iff it
is canonical and no unit value is in it. So the result of a script, which is canonical for a script
of built-in commands, can be asked for as the expected output of a test iff no unit value is in
it. -/
theorem toml_values_unitFree :
    (∀ data : Plain, Value.ofToml data.toToml = Value.ofJson data.toJson)
    ∧ (∀ v : Value,
      (∃ toml : Toml, toml.DistinctKeys ∧ Value.ofToml toml = v) ↔ v.Canonical ∧ v.UnitFree)
    ∧ (∀ (registry : Registry) (source : String) (header : TestHeader) (v : Value),
      runScript source registry header.inputValue = .ok v → v.Canonical →
      ((∃ toml : Toml, toml.DistinctKeys
          ∧ (header.expecting toml).verdict source registry = none) ↔ v.UnitFree))
    ∧ ∀ (source : String) (header : TestHeader) (v : Value),
      runScript source .builtin header.inputValue = .ok v → v.Canonical := by
  refine ⟨Value.ofToml_toToml, fun v => Value.exists_ofToml_eq_iff,
    fun registry source header v hrun hcanonical => ?_,
    fun source header v hrun => canonical_of_runScript header.canonical_inputValue hrun⟩
  calc (∃ toml : Toml, toml.DistinctKeys ∧ (header.expecting toml).verdict source registry = none)
      ↔ ∃ toml : Toml, toml.DistinctKeys ∧ Value.ofToml toml = v := by
        simp only [TestHeader.verdict_expecting_eq_none_iff hrun, eq_comm]
    _ ↔ v.UnitFree := by
        rw [Value.exists_ofToml_eq_iff]
        exact and_iff_right hcanonical

/-- A script that saves what it was run on and a text. -/
def savingBoth : String := "save given\necho x\nsave said"

/-- The header of a test that is run on a date, or on nothing. -/
def dateHeader (date : Option Calendar.Date) : TestHeader :=
  ⟨none, date.map fun d => .moment (.date d), none, none, false⟩

/-- What a script saves can be expected if it was run on a date, and cannot if it was run on
nothing. -/
theorem toml_values_unitFree_savingBoth :
    (∃ toml : Toml, toml.DistinctKeys
      ∧ ((dateHeader (some ⟨2026, 10, 19⟩)).expecting toml).verdict savingBoth .builtin = none)
    ∧ ¬∃ toml : Toml, toml.DistinctKeys
      ∧ ((dateHeader none).expecting toml).verdict savingBoth .builtin = none := by
  have hdate : runScript savingBoth .builtin (dateHeader (some ⟨2026, 10, 19⟩)).inputValue
      = .ok (.record
        [("given", .text "\x7b \"$__toml_private_datetime\" = \"2026-10-19\" \x7d"),
          ("said", .text "x")]) :=
    eq_ok_of_toOption (by decide +kernel)
  have hnothing : runScript savingBoth .builtin (dateHeader none).inputValue
      = .ok (.record [("given", .unit), ("said", .text "x")]) :=
    eq_ok_of_toOption (by decide +kernel)
  obtain ⟨-, -, hmatched, hcanonical⟩ := toml_values_unitFree
  constructor
  · refine (hmatched _ _ _ _ hdate (hcanonical _ _ _ hdate)).mpr (.record ?_)
    simp [Value.UnitFree.text]
  · intro hsome
    have hfree := (hmatched _ _ _ _ hnothing (hcanonical _ _ _ hnothing)).mp hsome
    exact Value.not_unitFree_unit
      (Value.unitFree_record_iff.mp hfree ("given", .unit) List.mem_cons_self)

end CheckScript
