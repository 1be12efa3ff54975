import CheckScript.Command.Template
import CheckScript.Text.Blank
import CheckScript.Text.Split

/-!
# Commands on texts

* `echo [text]` answers with its argument, trimmed, or with the unit value.
* `split [separator]` cuts a text into a list, at newlines by default.
* `join [separator]` joins a list to a text, with newlines by default.
* `trim` takes the blanks off the ends of a text.
* `template text` fills in the placeholders of its argument.
-/

namespace CheckScript.Command

open Text

/-- `echo [text]`. -/
def echo : Factory := fun argument =>
  let answer := (argument.map fun s => Value.text (trimText s)).getD .unit
  .ok (.pure fun _ => answer)

/-- The lines of a text, a carriage return before a newline or at the end left out. -/
def splitLines (cs : List Char) : List (List Char) := (splitChar '\n' cs).map (stripLast '\r')

/-- The pieces of a text at a separator. -/
def splitAt (separator cs : List Char) : List (List Char) :=
  match separator with
  | [] => splitEverywhere cs
  | s :: ss => splitOn s ss cs

/-- The pieces of a text as `split` makes them of it. -/
def pieces (separator : Option String) (text : String) : List String :=
  let cuts := match separator with
    | none => splitLines text.toList
    | some separator => splitAt separator.toList text.toList
  cuts.map String.ofList

/-- `split [separator]`. -/
def split : Factory := fun argument =>
  .ok (.attempt fun input => do
    let text ← expectText "split" input
    return .list ((pieces argument text).map .text))

/-- Texts with a separator between them. -/
def joinTexts (separator : String) (texts : List String) : String :=
  String.ofList (separator.toList.intercalate (texts.map String.toList))

/-- `join [separator]`. -/
def join : Factory := fun argument =>
  .ok (.attempt fun input => do
    let items ← expectList "join" input
    return .text (joinTexts (argument.getD "\n") (items.map Value.display)))

/-- `trim`. -/
def trim : Factory := fun _ =>
  .ok (.attempt fun input => do
    let text ← expectText "trim" input
    return .text (trimText text))

/-- `template text`. -/
def template : Factory := fun argument => do
  let text ← requireArgument "template" argument
  return .leaf fun context input =>
    ⟨.ok (.text (String.ofList (Template.fill (Template.keyText context input) text.toList))),
      context⟩

end CheckScript.Command
