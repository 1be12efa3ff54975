import CheckScript.Value
import CheckScript.Json.Printer
import CheckScript.Json.Reader

/-!
# Values as JSON

JSON that enters a script becomes a value: `null` is the unit value, numbers and truth values become
their texts, and of members with one key the last counts. A value becomes JSON without loss: the
unit value is `null`, and the rest is a text, an array or an object.

`Value.display` is how a value reads in messages and where texts are joined: a text is itself, the
unit value is empty, and a list or record is its compact JSON.
-/

namespace CheckScript

namespace Value

/-! ## From JSON -/

mutual

/-- The value of a JSON tree. -/
def ofJson : Json → Value
  | .null => .unit
  | .text s => .text s
  | .bool b => .text (String.ofList (Json.renderScalar (.bool b)))
  | .number n => .text (String.ofList n.render)
  | .array items => .list (ofJsonItems items)
  | .object members => ofDict (Dict.ofList (ofJsonMembers members))

/-- The values of the items of an array. -/
def ofJsonItems : List Json → List Value
  | [] => []
  | item :: items => ofJson item :: ofJsonItems items

/-- The members of an object with the values of their trees, in the order of the text. -/
def ofJsonMembers : List (String × Json) → List (String × Value)
  | [] => []
  | (key, json) :: members => (key, ofJson json) :: ofJsonMembers members

end

/-- The value that a JSON text writes. -/
def parseJson? (text : String) : Option Value := (Json.parse? text).map ofJson

/-! ## To JSON -/

mutual

/-- The JSON tree of a value. -/
def toJson : Value → Json
  | .unit => .null
  | .text s => .text s
  | .list items => .array (toJsonItems items)
  | .record fields => .object (toJsonFields fields)

/-- The trees of a list of values. -/
def toJsonItems : List Value → List Json
  | [] => []
  | item :: items => item.toJson :: toJsonItems items

/-- The members for the fields of a record. -/
def toJsonFields : List (String × Value) → List (String × Json)
  | [] => []
  | (key, value) :: fields => (key, value.toJson) :: toJsonFields fields

end

/-! ## Display -/

/-- How a value reads in messages, and where it is joined to a text. -/
def display : Value → String
  | .unit => ""
  | .text s => s
  | value => String.ofList value.toJson.compact

/-- The value on lines of its own, as JSON. -/
def displayPretty (value : Value) : String := String.ofList value.toJson.pretty

end Value

end CheckScript
