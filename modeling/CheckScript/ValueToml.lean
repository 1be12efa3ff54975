import CheckScript.Toml.Reader
import CheckScript.Value

/-!
# Values from TOML

The data of test and check files is TOML. As values, tables are records and arrays are lists; every
other value is its text. The text of a date or time is that of a table with one reserved key.

The other way round, a table whose first key is the reserved one is a date or time, and there has to
be one behind it (`Toml.settle?`). This does not concern a document as a whole.
-/

namespace CheckScript

namespace Toml

/-- The key that dates and times are kept under in tables. -/
def momentKey : String := "$__toml_private_datetime"

/-- The moment that is kept behind the reserved key. -/
def momentOf? : Toml → Option Toml
  | .text s => (Moment.ofText? s.toList).map .moment
  | _ => none

mutual

/-- The value with dates and times for the tables that stand for them. -/
def settle? : Toml → Option Toml
  | .array items => (settleItems? items).map .array
  | .table ((key, first) :: others) =>
    if key = momentKey then momentOf? first
    else do
      let settled ← first.settle?
      return .table ((key, settled) :: (← settleEntries? others))
  | other => some other

/-- The items of an array, settled. -/
def settleItems? : List Toml → Option (List Toml)
  | [] => some []
  | item :: items => do return (← item.settle?) :: (← settleItems? items)

/-- The entries of a table, settled. -/
def settleEntries? : List (String × Toml) → Option (List (String × Toml))
  | [] => some []
  | (key, value) :: entries => do return (key, ← value.settle?) :: (← settleEntries? entries)

end

/-- The text of a value that is neither array nor table. -/
def scalarText : Toml → String
  | .text s => s
  | .integer n => toString n
  | .float x => String.ofList x.render
  | .boolean b => if b then "true" else "false"
  | .moment m =>
    "\x7b \"" ++ momentKey ++ "\" = \"" ++ String.ofList m.text ++ "\" \x7d"
  | _ => ""

end Toml

namespace Value

mutual

/-- The value of a TOML value. -/
def ofToml : Toml → Value
  | .array items => .list (ofTomlItems items)
  | .table entries => ofDict (Dict.ofList (ofTomlEntries entries))
  | scalar => .text scalar.scalarText

/-- The values of the items of an array. -/
def ofTomlItems : List Toml → List Value
  | [] => []
  | item :: items => ofToml item :: ofTomlItems items

/-- The entries of a table with their values. -/
def ofTomlEntries : List (String × Toml) → List (String × Value)
  | [] => []
  | (key, toml) :: entries => (key, ofToml toml) :: ofTomlEntries entries

end

/-- The value of a whole document. -/
def ofDocument? (text : String) : Option Value := do
  let entries ← Toml.settleEntries? (← Toml.ofText? text)
  return ofToml (.table entries)

end Value

end CheckScript
