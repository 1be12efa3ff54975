import CheckScript.Json.Numeral
import CheckScript.Json.Quoted
import CheckScript.Text.Read
import CheckScript.Text.Split

/-!
# Reading JSON

`Json.parse?` reads a JSON text: one value, with blanks around it and between its parts. Arrays and
objects may nest 127 deep. Nothing beyond the grammar is accepted: no comments, no trailing commas,
no other blanks than the four of the grammar.

Every reader returns what is left of the text, with the fact that it is shorter (`Read`); reading
ends because of it.
-/

namespace CheckScript.Json

open Text (Read stripPrefix? length_of_stripPrefix?)

/-- How deep arrays and objects may nest. -/
def maxDepth : Nat := 127

/-- A blank of the grammar. -/
def isSpace (c : Char) : Bool := c == ' ' || c == '\n' || c == '\t' || c == '\r'

/-- The text from its first character that is not a blank of the grammar. -/
def skipSpaces (cs : List Char) : List Char := cs.dropWhile isSpace

theorem length_skipSpaces_le (cs : List Char) : (skipSpaces cs).length ≤ cs.length :=
  (List.dropWhile_sublist isSpace).length_le

theorem length_lt_of_skipSpaces {cs rest : List Char} {c : Char} (h : skipSpaces cs = c :: rest) :
    rest.length < cs.length := by
  have := length_skipSpaces_le cs
  rw [h, List.length_cons] at this
  omega

/-- Reads a string from behind its opening quotation mark. -/
def readString (cs : List Char) : Option (Read String cs) :=
  match h : readBody cs with
  | some (body, rest) => some ⟨String.ofList body, rest, length_of_readBody h⟩
  | none => none

theorem length_lt_of_stripPrefix {c : Char} {pre cs rest : List Char}
    (h : stripPrefix? (c :: pre) cs = some rest) : rest.length < cs.length := by
  rw [length_of_stripPrefix? h, List.length_cons]
  omega

/-- Reads the word `n :: ns`, which stands for a value. -/
def readName (n : Char) (ns : List Char) (value : Json) (cs : List Char) : Option (Read Json cs) :=
  match h : stripPrefix? (n :: ns) cs with
  | some rest => some ⟨value, rest, length_lt_of_stripPrefix h⟩
  | none => none

/-- Reads a number. -/
def readNumberValue (cs : List Char) : Option (Read Json cs) :=
  match h : readNumber cs with
  | some (n, rest) => some ⟨.number n, rest, length_of_readNumber h⟩
  | none => none

/-- Reads a value that holds no others and is no string. -/
def readScalar (cs : List Char) : Option (Read Json cs) :=
  readName 'n' ['u', 'l', 'l'] .null cs
    <|> readName 't' ['r', 'u', 'e'] (.bool true) cs
    <|> readName 'f' ['a', 'l', 's', 'e'] (.bool false) cs
    <|> readNumberValue cs

/-- Reads a closing bracket behind blanks. -/
def readClosing (closing : Char) (cs : List Char) : Option (Read Unit cs) :=
  match h : skipSpaces cs with
  | [] => none
  | c :: rest => if c = closing then some ⟨(), rest, length_lt_of_skipSpaces h⟩ else none

/-- Reads a colon behind blanks. -/
def readColon (cs : List Char) : Option (Read Unit cs) :=
  match h : skipSpaces cs with
  | ':' :: rest => some ⟨(), rest, length_lt_of_skipSpaces h⟩
  | _ => none

/-- What stands between the parts of an array or object. -/
inductive Joint where
  | comma
  | close
  deriving DecidableEq

/-- Reads a comma or the closing bracket behind blanks. -/
def readJoint (closing : Char) (cs : List Char) : Option (Read Joint cs) :=
  match h : skipSpaces cs with
  | [] => none
  | c :: rest =>
    have hlt : rest.length < cs.length := length_lt_of_skipSpaces h
    if c = ',' then some ⟨.comma, rest, hlt⟩
    else if c = closing then some ⟨.close, rest, hlt⟩
    else none

/-- Reads the opening quotation mark of a key behind blanks, and the key. -/
def readKey (cs : List Char) : Option (Read String cs) :=
  match h : skipSpaces cs with
  | '"' :: rest =>
    (readString rest).map fun r => r.widen (Nat.le_of_lt (length_lt_of_skipSpaces h))
  | _ => none

mutual

/-- Reads a value behind blanks; arrays and objects in it may nest `depth` deep. -/
def readValue (depth : Nat) (cs : List Char) : Option (Read Json cs) :=
  match h : skipSpaces cs with
  | [] => none
  | c :: rest =>
    have hlt : rest.length < cs.length := length_lt_of_skipSpaces h
    have hle : (c :: rest).length ≤ cs.length := hlt
    if c = '"' then (readString rest).map fun r => (r.map Json.text).widen (Nat.le_of_lt hlt)
    else if c = '[' then
      match depth with
      | 0 => none
      | depth + 1 =>
        match readClosing ']' rest with
        | some r => some ((r.map fun _ => .array []).widen (Nat.le_of_lt hlt))
        | none => (readItems depth rest).map fun r => (r.map Json.array).widen (Nat.le_of_lt hlt)
    else if c = '{' then
      match depth with
      | 0 => none
      | depth + 1 =>
        match readClosing '}' rest with
        | some r => some ((r.map fun _ => .object []).widen (Nat.le_of_lt hlt))
        | none => (readMembers depth rest).map fun r => (r.map Json.object).widen (Nat.le_of_lt hlt)
    else (readScalar (c :: rest)).map fun r => r.widen hle
termination_by (cs.length, 0)

/-- Reads the items of an array up to behind its bracket; there is at least one. -/
def readItems (depth : Nat) (cs : List Char) : Option (Read (List Json) cs) :=
  match readValue depth cs with
  | none => none
  | some ⟨item, rest, h⟩ =>
    match readJoint ']' rest with
    | none => none
    | some ⟨.close, rest', h'⟩ => some ⟨[item], rest', Nat.lt_trans h' h⟩
    | some ⟨.comma, rest', h'⟩ =>
      (readItems depth rest').map fun r =>
        (r.map (item :: ·)).widen (Nat.le_of_lt (Nat.lt_trans h' h))
termination_by (cs.length, 1)

/-- Reads the members of an object up to behind its bracket; there is at least one. -/
def readMembers (depth : Nat) (cs : List Char) : Option (Read (List (String × Json)) cs) :=
  match readKey cs with
  | none => none
  | some ⟨key, rest, h⟩ =>
    match readColon rest with
    | none => none
    | some ⟨_, rest', h'⟩ =>
      match readValue depth rest' with
      | none => none
      | some ⟨value, rest'', h''⟩ =>
        match readJoint '}' rest'' with
        | none => none
        | some ⟨.close, rest₃, h₃⟩ =>
          some ⟨[(key, value)], rest₃, Nat.lt_trans (Nat.lt_trans h₃ h'') (Nat.lt_trans h' h)⟩
        | some ⟨.comma, rest₃, h₃⟩ =>
          (readMembers depth rest₃).map fun r =>
            (r.map ((key, value) :: ·)).widen
              (Nat.le_of_lt (Nat.lt_trans (Nat.lt_trans h₃ h'') (Nat.lt_trans h' h)))
termination_by (cs.length, 1)

end

/-- Reads a JSON text: one value, and nothing but blanks behind it. -/
def parse? (text : String) : Option Json :=
  match readValue maxDepth text.toList with
  | none => none
  | some r => if (skipSpaces r.rest).isEmpty then some r.value else none

end CheckScript.Json
