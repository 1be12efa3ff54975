import CheckScript.Toml.Basic

/-!
# Building tables

The tables of a document come into being in three ways: by a header of their own, because a header
names a table inside of them, and by a dotted key. What may be added to a table depends on it
(`Origin`):

* A header may name a table once, and then one that exists because of other headers only. Such a
  table moves behind the other entries of the table that it is in.
* A dotted key may go through tables without a header of their own, and add a key to one that exists
  because of dotted keys only.
* A header of an array adds a table to it; other headers and keys that go through the array mean the
  last table in it.
* Nothing can be added to a value, and no key can be given twice.
-/

namespace CheckScript.Toml

/-- Why a table is there. -/
inductive Origin where
  | header
  | implied
  | dotted
  deriving DecidableEq, Repr

/-- What a key stands for while the document is read; the tables of an array stand last first. -/
inductive Entry where
  | value (v : Toml)
  | table (origin : Origin) (entries : List (String × Entry))
  | tables (items : List Entry)

/-- The entries of a table while the document is read. -/
abbrev Entries := List (String × Entry)

/-! ## Finished tables -/

mutual

/-- What a key stands for in the end. -/
def Entry.toToml : Entry → Toml
  | .value v => v
  | .table _ entries => .table (entriesToToml entries)
  | .tables items => .array (itemsToToml items).reverse

/-- The entries of a table in the end. -/
def entriesToToml : List (String × Entry) → List (String × Toml)
  | [] => []
  | (key, entry) :: entries => (key, entry.toToml) :: entriesToToml entries

/-- The tables of an array in the end, in the same order. -/
def itemsToToml : List Entry → List Toml
  | [] => []
  | item :: items => item.toToml :: itemsToToml items

end

namespace Entries

/-- Changes what a key stands for; a key that is not there is added at the end. -/
def alter (key : String) (change : Option Entry → Option Entry) : Entries → Option Entries
  | [] => (change none).map fun entry => [(key, entry)]
  | (other, entry) :: entries =>
    if other = key then (change (some entry)).map fun entry => (other, entry) :: entries
    else (alter key change entries).map ((other, entry) :: ·)

/-! ## Keys with values -/

/-- Adds a value under a key, which may be dotted. -/
def insert (value : Toml) : List String → Entries → Option Entries
  | [], _ => none
  | [key], entries =>
    entries.alter key fun entry => if entry.isSome then none else some (.value value)
  | key :: keys, entries =>
    entries.alter key fun entry =>
      match entry with
      | none => (insert value keys []).map (.table .dotted)
      | some (.table origin inner) =>
        if origin = .header ∨ (keys.length = 1 ∧ origin ≠ .dotted) then none
        else (insert value keys inner).map (.table origin)
      | some (.tables (.table origin inner :: earlier)) =>
        if keys.length = 1 then none
        else (insert value keys inner).map fun inner => .tables (.table origin inner :: earlier)
      | _ => none

/-- Adds values under their keys, one after the other. -/
def insertAll : List (List String × Toml) → Entries → Option Entries
  | [], entries => some entries
  | (key, value) :: pairs, entries => (insert value key entries).bind (insertAll pairs)

/-! ## Headers -/

/-- Changes the table that holds what a header names; `change` is told the last key. -/
def alterAt (change : String → Entries → Option Entries) : List String → Entries → Option Entries
  | [], _ => none
  | [key], entries => change key entries
  | key :: keys, entries =>
    entries.alter key fun entry =>
      match entry with
      | none => (alterAt change keys []).map (.table .implied)
      | some (.table origin inner) => (alterAt change keys inner).map (.table origin)
      | some (.tables (.table origin inner :: earlier)) =>
        (alterAt change keys inner).map fun inner => .tables (.table origin inner :: earlier)
      | _ => none

/-- Opens a table under a key, with the pairs below its header; it comes last. -/
def openTable (pairs : List (List String × Toml)) (key : String) (entries : Entries) :
    Option Entries :=
  let put (inner : Entries) : Option Entries :=
    (insertAll pairs inner).map fun inner =>
      entries.filter (·.1 != key) ++ [(key, .table .header inner)]
  match entries.find? (·.1 == key) with
  | none => put []
  | some (_, .table .implied inner) => put inner
  | some _ => none

/-- Adds a table to the array under a key, with the pairs below its header. -/
def openItem (pairs : List (List String × Toml)) (key : String) (entries : Entries) :
    Option Entries :=
  entries.alter key fun entry =>
    match entry with
    | none => (insertAll pairs []).map fun inner => .tables [.table .header inner]
    | some (.tables items) =>
      (insertAll pairs []).map fun inner => .tables (.table .header inner :: items)
    | some _ => none

end Entries

/-- What stands above some pairs. -/
inductive Header where
  | none
  | table (key : List String)
  | item (key : List String)
  deriving DecidableEq, Repr

/-- A header with the pairs below it. -/
structure Section where
  header : Header
  pairs : List (List String × Toml)

/-- Adds a section to a document. -/
def Section.addTo (entries : Entries) (part : Section) : Option Entries :=
  match part.header with
  | .none => entries.insertAll part.pairs
  | .table key => entries.alterAt (Entries.openTable part.pairs) key
  | .item key => entries.alterAt (Entries.openItem part.pairs) key

/-- The table that a document with these sections is. -/
def tableOf? (sections : List Section) : Option (List (String × Toml)) :=
  (sections.foldlM Section.addTo []).map entriesToToml

end CheckScript.Toml
