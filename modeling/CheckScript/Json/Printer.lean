import CheckScript.Json.Basic
import CheckScript.Json.Quoted

/-!
# Writing JSON

`compact` writes a tree without any blanks, on one line. `pretty` writes each item and each member
on a line of its own, two columns deeper than the bracket around it; empty arrays and objects stay
on one line.
-/

namespace CheckScript.Json

/-- Texts with a separator between them. -/
def separated (sep : List Char) : List (List Char) → List Char
  | [] => []
  | [x] => x
  | x :: y :: xs => x ++ sep ++ separated sep (y :: xs)

/-- The text of a value that holds no others. -/
def renderScalar : Json → List Char
  | .bool true => "true".toList
  | .bool false => "false".toList
  | .number n => n.render
  | .text s => quote s
  | _ => "null".toList

/-! ## Compact -/

mutual

/-- A tree without blanks. -/
def compact : Json → List Char
  | .array items => '[' :: separated [','] (compactItems items) ++ [']']
  | .object members => '\x7b' :: separated [','] (compactMembers members) ++ ['\x7d']
  | scalar => renderScalar scalar

/-- The items of an array, one text each. -/
def compactItems : List Json → List (List Char)
  | [] => []
  | item :: items => compact item :: compactItems items

/-- The members of an object, one text each. -/
def compactMembers : List (String × Json) → List (List Char)
  | [] => []
  | (key, value) :: members => (quote key ++ ':' :: compact value) :: compactMembers members

end

/-! ## Pretty -/

/-- The start of a line `depth` brackets deep. -/
def newline (depth : Nat) : List Char := '\n' :: List.replicate (2 * depth) ' '

/-- The parts of an array or object between its brackets, one a line. -/
def bracketed (opening closing : Char) (depth : Nat) (parts : List (List Char)) : List Char :=
  if parts.isEmpty then [opening, closing]
  else
    opening :: newline (depth + 1) ++ separated (',' :: newline (depth + 1)) parts
      ++ newline depth ++ [closing]

mutual

/-- A tree that stands `depth` brackets deep. -/
def prettyAt (depth : Nat) : Json → List Char
  | .array items => bracketed '[' ']' depth (prettyItems (depth + 1) items)
  | .object members => bracketed '\x7b' '\x7d' depth (prettyMembers (depth + 1) members)
  | scalar => renderScalar scalar

/-- The items of an array, one text each. -/
def prettyItems (depth : Nat) : List Json → List (List Char)
  | [] => []
  | item :: items => prettyAt depth item :: prettyItems depth items

/-- The members of an object, one text each. -/
def prettyMembers (depth : Nat) : List (String × Json) → List (List Char)
  | [] => []
  | (key, value) :: members =>
    (quote key ++ ':' :: ' ' :: prettyAt depth value) :: prettyMembers depth members

end

/-- A tree with one part a line. -/
def pretty (json : Json) : List Char := prettyAt 0 json

end CheckScript.Json
