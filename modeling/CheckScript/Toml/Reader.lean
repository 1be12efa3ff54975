import CheckScript.Toml.Scalar
import CheckScript.Toml.Table

/-!
# Reading TOML

`Toml.ofText?` reads a document: the entries of the table that it is. Arrays and inline tables nest
at most 79 deep. Lines that hold a header or a pair end with nothing but a comment; an array may go
over several lines, an inline table may not.
-/

namespace CheckScript.Toml

open Text

/-! ## Arrays and inline tables -/

/-- Reads blanks, a comment if there is one, and a line ending. -/
def readBlankLine (cs : List Char) : Option (Unit × List Char) :=
  (readNewline (skipComment (skipWs cs))).map fun rest => ((), rest)

/-- Skips blanks, comments and line endings. -/
def skipLayout (cs : List Char) : List Char :=
  match Read.ofPair? cs (readBlankLine cs) with
  | some r => skipLayout r.rest
  | none => skipWs cs
termination_by cs.length
decreasing_by exact r.shorter

theorem length_skipWs_le (cs : List Char) : (skipWs cs).length ≤ cs.length :=
  (List.dropWhile_sublist isWs).length_le

theorem length_skipLayout_le (cs : List Char) : (skipLayout cs).length ≤ cs.length := by
  fun_induction skipLayout cs with
  | case1 cs r _ ih => exact Nat.le_trans ih (Nat.le_of_lt r.shorter)
  | case2 cs _ => exact length_skipWs_le cs

/-- Reads a key and the equals sign behind it. -/
def readKeyAssign (cs : List Char) : Option (List String × List Char) :=
  match readKey cs with
  | some (key, '=' :: rest) => some (key, rest)
  | _ => none

/-- Reads what stands between the parts of an array or inline table: a comma, or the closing
bracket. Answers whether it was the comma. -/
def readJoint (closing : Char) : List Char → Option (Bool × List Char)
  | [] => none
  | c :: rest =>
    if c = ',' then some (true, rest) else if c = closing then some (false, rest) else none

mutual

/-- Reads a value; arrays and inline tables in it may nest `depth` deep. -/
def readValue (depth : Nat) (cs : List Char) : Option (Read Toml cs) :=
  match cs with
  | '[' :: rest =>
    match depth with
    | 0 => none
    | depth + 1 =>
      (readItems depth rest).map fun r => (r.map Toml.array).widen (by simp)
  | '\x7b' :: rest =>
    match depth with
    | 0 => none
    | depth + 1 =>
      match h : skipWs rest with
      | '\x7d' :: after =>
        some ⟨.table [], after, by
          have := length_skipWs_le rest
          rw [h] at this
          simp only [List.length_cons] at this ⊢
          omega⟩
      | _ =>
        match readPairs depth rest with
        | none => none
        | some r =>
          (Entries.insertAll r.value []).map fun entries =>
            ⟨.table (entriesToToml entries), r.rest, Nat.lt_trans r.shorter (by simp)⟩
  | cs => Read.ofPair? cs (readScalar cs)
termination_by (cs.length, 0)
decreasing_by all_goals simp [Prod.lex_def]

/-- Reads the items of an array up to behind its bracket. -/
def readItems (depth : Nat) (cs : List Char) : Option (Read (List Toml) cs) :=
  match h : skipLayout cs with
  | [] => none
  | c :: rest =>
    have hle : (c :: rest).length ≤ cs.length := h ▸ length_skipLayout_le cs
    if c = ']' then some ⟨[], rest, hle⟩
    else
      match readValue depth (c :: rest) with
      | none => none
      | some item =>
        match Read.ofPair? item.rest (readJoint ']' (skipLayout item.rest)) with
        | none => none
        | some ⟨false, after, hafter⟩ =>
          some ⟨[item.value], after,
            Nat.lt_of_lt_of_le (Nat.lt_trans hafter item.shorter) hle⟩
        | some ⟨true, after, hafter⟩ =>
          have hlt := Nat.lt_of_lt_of_le (Nat.lt_trans hafter item.shorter) hle
          (readItems depth after).map fun r =>
            (r.map (item.value :: ·)).widen (Nat.le_of_lt hlt)
termination_by (cs.length, 1)
decreasing_by
  · rw [Prod.lex_def]
    rcases Nat.lt_or_eq_of_le hle with h' | h'
    · exact .inl h'
    · exact .inr ⟨h', by simp⟩
  · rw [Prod.lex_def]
    exact .inl hlt

/-- Reads the pairs of an inline table up to behind its brace; there is at least one. -/
def readPairs (depth : Nat) (cs : List Char) : Option (Read (List (List String × Toml)) cs) :=
  match Read.ofPair? cs (readKeyAssign cs) with
  | none => none
  | some ⟨key, rest, hkey⟩ =>
    match readValue depth (skipWs rest) with
    | none => none
    | some item =>
      match Read.ofPair? item.rest (readJoint '\x7d' (skipWs item.rest)) with
      | none => none
      | some ⟨false, after, hafter⟩ =>
        some ⟨[(key, item.value)], after,
          Nat.lt_trans (Nat.lt_trans hafter item.shorter)
            (Nat.lt_of_le_of_lt (length_skipWs_le rest) hkey)⟩
      | some ⟨true, after, hafter⟩ =>
        have hlt : after.length < cs.length :=
          Nat.lt_trans (Nat.lt_trans hafter item.shorter)
            (Nat.lt_of_le_of_lt (length_skipWs_le rest) hkey)
        (readPairs depth after).map fun r =>
          (r.map ((key, item.value) :: ·)).widen (Nat.le_of_lt hlt)
termination_by (cs.length, 1)
decreasing_by
  · rw [Prod.lex_def]
    exact .inl (Nat.lt_of_le_of_lt (length_skipWs_le rest) hkey)
  · rw [Prod.lex_def]
    exact .inl hlt

end

/-! ## Lines -/

/-- A line of a document that is not blank. -/
inductive DocumentLine where
  | header (h : Header)
  | pair (key : List String) (value : Toml)

/-- Reads the key of a header and the brackets that close it. -/
def readHeaderKey (closing cs : List Char) : Option (List String × List Char) := do
  let (key, rest) ← readKey cs
  return (key, ← stripPrefix? closing rest)

/-- Reads a line that is not blank, without its end. -/
def readLine (cs : List Char) : Option (DocumentLine × List Char) :=
  match cs with
  | '[' :: '[' :: rest =>
    (readHeaderKey [']', ']'] rest).map fun (key, rest) => (.header (.item key), rest)
  | '[' :: rest =>
    (readHeaderKey [']'] rest).map fun (key, rest) => (.header (.table key), rest)
  | cs => do
    let (key, rest) ← readKeyAssign cs
    let item ← readValue maxNesting (skipWs rest)
    return (.pair key item.value, item.rest)

/-- Reads the next line with its end; `none` in its place if it is blank. -/
def readAnyLine (cs : List Char) : Option (Option DocumentLine × List Char) :=
  match readLineEnd cs with
  | some rest => some (none, rest)
  | none => do
    let (line, rest) ← readLine (skipWs cs)
    return (some line, ← readLineEnd rest)

/-- Reads the lines of a document. -/
def readLines (cs : List Char) : Option (List DocumentLine) :=
  if cs.isEmpty then some []
  else
    match Read.ofPair? cs (readAnyLine cs) with
    | none => none
    | some r => (readLines r.rest).map fun lines => r.value.toList ++ lines
termination_by cs.length
decreasing_by exact r.shorter

/-! ## Documents -/

/-- The lines of a document in sections; the first section has no header. -/
def sectionsFrom (current : Section) : List DocumentLine → List Section
  | [] => [current]
  | .header h :: lines => current :: sectionsFrom ⟨h, []⟩ lines
  | .pair key value :: lines =>
    sectionsFrom { current with pairs := current.pairs ++ [(key, value)] } lines

/-- The entries of the table that a document is. -/
def ofText? (text : String) : Option (List (String × Toml)) := do
  let cs := match text.toList with
    | '\uFEFF' :: rest => rest
    | cs => cs
  let lines ← readLines cs
  tableOf? (sectionsFrom ⟨.none, []⟩ lines)

end CheckScript.Toml
