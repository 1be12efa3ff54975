/-!
# Outlines

An outline shows structured data on lines of their own: a record by its name and its fields, a
variant by its name and what it holds, a list by its items, each part followed by a comma and four
columns deeper than what it is a part of.
-/

namespace CheckScript.Text

/-- Data to be shown in an outline. -/
inductive Outline where
  | atom (text : List Char)
  | record (name : List Char) (fields : List (List Char × Outline))
  | variant (name : List Char) (content : Outline)
  | list (items : List Outline)

namespace Outline

/-- The start of a line `depth` parts deep. -/
def startLine (depth : Nat) : List Char := '\n' :: List.replicate (4 * depth) ' '

mutual

/-- An outline that stands `depth` parts deep, from behind the start of its line. -/
def render (depth : Nat) : Outline → List Char
  | .atom text => text
  | .record name fields =>
    name ++ [' ', '\x7b'] ++ renderFields (depth + 1) fields ++ startLine depth ++ ['\x7d']
  | .variant name content =>
    name ++ ['('] ++ startLine (depth + 1) ++ render (depth + 1) content ++ [',']
      ++ startLine depth ++ [')']
  | .list [] => ['[', ']']
  | .list items => ['['] ++ renderItems (depth + 1) items ++ startLine depth ++ [']']

/-- The items of a list, one a line. -/
def renderItems (depth : Nat) : List Outline → List Char
  | [] => []
  | item :: items => startLine depth ++ render depth item ++ [','] ++ renderItems depth items

/-- The fields of a record, one a line. -/
def renderFields (depth : Nat) : List (List Char × Outline) → List Char
  | [] => []
  | (name, value) :: fields =>
    startLine depth ++ name ++ [':', ' '] ++ render depth value ++ [',']
      ++ renderFields depth fields

end

end Outline

end CheckScript.Text
