/-!
# Patterns as they are written

A pattern as the tree of its text, before any flag has had its effect. A flag set in the middle of a
group is a part of its own (`Expr.flags`) and holds from there to the end of the group, across its
branches.

`Expr.depth` counts how deep a pattern nests; a sequence or a union counts as a level only if it has
at least two parts.
-/

namespace CheckScript.Pattern

/-- What can be switched in a pattern. -/
inductive Flag where
  /-- `i`: letters stand for their variants in case too. -/
  | ignoreCase
  /-- `m`: line anchors hold at every line. -/
  | multiLine
  /-- `s`: the dot stands for line endings too. -/
  | dotAll
  /-- `U`: repetitions are lazy, and greedy with a question mark. -/
  | swapGreed
  /-- `u`: classes mean the characters of all scripts. -/
  | unicode
  /-- `R`: a line ends with a carriage return, a newline, or both. -/
  | crlf
  /-- `x`: blanks and comments in the pattern are left out. -/
  | verbose
  deriving DecidableEq, Repr

/-- The flags that a group switches on and off. -/
structure FlagChange where
  on : List Flag
  off : List Flag
  deriving DecidableEq, Repr

/-- The change that changes nothing. -/
def FlagChange.none : FlagChange := ⟨[], []⟩

/-- Whether a change sets a flag, and to what. -/
def FlagChange.get? (change : FlagChange) (flag : Flag) : Option Bool :=
  if change.on.contains flag then some true
  else if change.off.contains flag then some false
  else .none

/-- A character that stands for itself; `byte` if it is written as `\x` and two digits. -/
structure Literal where
  char : Char
  byte : Bool
  deriving DecidableEq, Repr

/-- Conditions on a place in the text. -/
inductive Anchor where
  | lineStart
  | lineEnd
  | textStart
  | textEnd
  | wordBoundary
  | notWordBoundary
  | wordStart
  | wordEnd
  | wordStartHalf
  | wordEndHalf
  deriving DecidableEq, Repr

/-- The classes that have a letter. -/
inductive Shorthand where
  | digit
  | space
  | word
  deriving DecidableEq, Repr

/-- How a class of characters is named by a property. -/
inductive PropertyQuery where
  /-- By the name of a property, a category or a script. -/
  | named (name : List Char)
  /-- By a property and a value of it. -/
  | valued (name value : List Char)
  deriving DecidableEq, Repr

/-- How two sets between brackets are combined. -/
inductive SetOp where
  | inter
  | diff
  | symmDiff
  deriving DecidableEq, Repr

mutual

/-- A part of a class between brackets. -/
inductive SetItem where
  | literal (l : Literal)
  | range (first last : Literal)
  | shorthand (kind : Shorthand) (negated : Bool)
  | property (query : PropertyQuery) (negated : Bool)
  | ascii (name : List Char) (negated : Bool)
  | bracketed (set : SetExpr) (negated : Bool)

/-- What stands between brackets. -/
inductive SetExpr where
  | items (parts : List SetItem)
  | op (kind : SetOp) (left right : SetExpr)

end

/-- What a pair of parentheses is for. -/
inductive GroupKind where
  | capture (name : Option (List Char))
  | plain (change : FlagChange)
  deriving DecidableEq, Repr

/-- A pattern as it is written. -/
inductive Expr where
  | flags (change : FlagChange)
  | literal (l : Literal)
  | dot
  | anchor (a : Anchor)
  | set (item : SetItem)
  | repeated (body : Expr) (min : Nat) (max : Option Nat) (greedy : Bool)
  | group (kind : GroupKind) (body : Expr)
  | sequence (parts : List Expr)
  | branches (parts : List Expr)

/-! ## Depth -/

/-- The depth of `count` parts the deepest of which has depth `deepest`. -/
def joinedDepth (count deepest : Nat) : Nat := if count < 2 then deepest else deepest + 1

mutual

/-- How deep a part of a class nests. -/
def SetItem.depth : SetItem → Nat
  | .bracketed set _ => set.depth + 1
  | _ => 0

/-- How deep a set nests. -/
def SetExpr.depth : SetExpr → Nat
  | .items parts => joinedDepth parts.length (deepestItem parts)
  | .op _ left right => max left.depth right.depth + 1

/-- The depth of the deepest of some parts of a class. -/
def deepestItem : List SetItem → Nat
  | [] => 0
  | item :: items => max item.depth (deepestItem items)

end

mutual

/-- How deep a pattern nests. -/
def Expr.depth : Expr → Nat
  | .set item => item.depth
  | .repeated body _ _ _ => body.depth + 1
  | .group _ body => body.depth + 1
  | .sequence parts => joinedDepth parts.length (deepestPart parts)
  | .branches parts => joinedDepth parts.length (deepestPart parts)
  | _ => 0

/-- The depth of the deepest of some patterns. -/
def deepestPart : List Expr → Nat
  | [] => 0
  | part :: parts => max part.depth (deepestPart parts)

end

/-! ## Group names -/

mutual

/-- The names of the groups of a pattern, in the order of the text. -/
def Expr.groupNames : Expr → List (List Char)
  | .repeated body _ _ _ => body.groupNames
  | .group (.capture (some name)) body => name :: body.groupNames
  | .group _ body => body.groupNames
  | .sequence parts => partsGroupNames parts
  | .branches parts => partsGroupNames parts
  | _ => []

/-- The names of the groups of some patterns. -/
def partsGroupNames : List Expr → List (List Char)
  | [] => []
  | part :: parts => part.groupNames ++ partsGroupNames parts

end

end CheckScript.Pattern
