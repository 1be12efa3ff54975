import CheckScript.Toml.Decode

/-!
# Test headers

A test file starts with a header that says what its script is run on and what is expected of it.
-/

namespace CheckScript

/-- What a test is about, and what it expects. -/
structure TestHeader where
  /-- What the test is about, for its reader. -/
  description : Option String
  /-- The input of the script; the unit value if there is none. -/
  input : Option Toml
  /-- The result that is expected. -/
  output : Option Toml
  /-- What the message of the runtime error that is expected contains. -/
  error : Option String
  /-- The script is expected not to compile. -/
  compileError : Bool

namespace TestHeader

/-- The header that a document with these entries gives. -/
def ofEntries (entries : List (String × Toml)) : Except Toml.DecodeError TestHeader := do
  let optional {α : Type} (read : Toml → Option α) (key : String) :=
    Toml.optional read key (Toml.find? entries key)
  let description ← optional Toml.asText? "description"
  let input ← optional Toml.settle? "input"
  let output ← optional Toml.settle? "expect_output"
  let error ← optional Toml.asText? "expect_error"
  let compileError ← optional Toml.asBoolean? "expect_compile_error"
  return { description, input, output, error, compileError := compileError.getD false }

/-- The header that a TOML text writes. -/
def ofText (text : String) : Except Toml.DecodeError TestHeader := do
  ofEntries (← Toml.readDocument text)

/-- The value that the script is run on. -/
def inputValue (header : TestHeader) : Value := (header.input.map Value.ofToml).getD .unit

end TestHeader

end CheckScript
