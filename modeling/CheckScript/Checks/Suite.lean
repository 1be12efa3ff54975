import CheckScript.Toml.Decode

/-!
# Check suites

A suite is a list of checks, each under a name of its own. A check is a script, given in the suite
itself or as a file, and the input that it is run on.

The names are distinct because reading a suite refuses a name that was there before
(`firstRepeat_eq_none_iff`).
-/

namespace CheckScript

/-- A script with its input. -/
structure Check where
  name : String
  /-- The script itself. -/
  script : Option String
  /-- The file that the script is in. -/
  file : Option String
  /-- The input of the script; the unit value if there is none. -/
  input : Option Toml

namespace Check

/-- What is known of a check, in the order in which an array gives it. -/
def keys : List String := ["name", "script", "file", "input"]

/-- The check that a TOML value describes. -/
def ofToml (toml : Toml) : Except Toml.DecodeError Check :=
  match toml.asEntries? keys with
  | none => .error (.unexpected "check")
  | some entries => do
    let name ← Toml.required Toml.asText? "name" (Toml.find? entries "name")
    let script ← Toml.optional Toml.asText? "script" (Toml.find? entries "script")
    let file ← Toml.optional Toml.asText? "file" (Toml.find? entries "file")
    let input ← Toml.optional Toml.settle? "input" (Toml.find? entries "input")
    return { name, script, file, input }

/-- The value that the script is run on. -/
def inputValue (check : Check) : Value := (check.input.map Value.ofToml).getD .unit

end Check

/-! ## Distinct names -/

/-- The first name that was there before, among `seen` or earlier in the list. -/
def firstRepeat (seen : List String) : List String → Option String
  | [] => none
  | name :: names => if name ∈ seen then some name else firstRepeat (name :: seen) names

/-- **No name is there twice exactly if the names are distinct.** -/
theorem firstRepeat_eq_none_iff (seen names : List String) :
    firstRepeat seen names = none ↔ names.Nodup ∧ ∀ name ∈ names, name ∉ seen := by
  induction names generalizing seen with
  | nil => simp [firstRepeat]
  | cons name names ih =>
    rw [firstRepeat]
    split
    · next h => simp [h]
    · next h =>
      rw [ih, List.nodup_cons]
      constructor
      · intro ⟨hn, hs⟩
        refine ⟨⟨fun hm => hs name hm (by simp), hn⟩, fun other ho => ?_⟩
        rcases List.mem_cons.mp ho with rfl | ho
        · exact h
        · exact fun hseen => hs other ho (List.mem_cons_of_mem _ hseen)
      · intro ⟨⟨hm, hn⟩, hs⟩
        refine ⟨hn, fun other ho hseen => ?_⟩
        rcases List.mem_cons.mp hseen with rfl | hseen
        · exact hm ho
        · exact hs other (List.mem_cons_of_mem _ ho) hseen

/-! ## Suites -/

/-- Why a text is no suite. -/
inductive SuiteError where
  | document (error : Toml.DecodeError)
  | repeated (name : String)
  deriving DecidableEq, Repr

/-- What is said about a text that is no suite. -/
def SuiteError.message : SuiteError → String
  | .document error => error.message
  | .repeated name => "duplicate check name '" ++ name ++ "'"

/-- Checks with distinct names. -/
structure Suite where
  checks : List Check
  distinct : (checks.map Check.name).Nodup

namespace Suite

/-- The suite of a list of checks. -/
def ofChecks (checks : List Check) : Except SuiteError Suite :=
  match h : firstRepeat [] (checks.map Check.name) with
  | some name => .error (.repeated name)
  | none => .ok ⟨checks, ((firstRepeat_eq_none_iff _ _).mp h).1⟩

/-- The checks that a document lists. -/
def readChecks (text : String) : Except Toml.DecodeError (List Check) := do
  let entries ← Toml.readDocument text
  let items ← Toml.optional Toml.asArray? "check" (Toml.find? entries "check")
  (items.getD []).mapM Check.ofToml

/-- The suite that a document lists. -/
def ofText (text : String) : Except SuiteError Suite := do
  ofChecks (← (readChecks text).mapError .document)

end Suite

end CheckScript
