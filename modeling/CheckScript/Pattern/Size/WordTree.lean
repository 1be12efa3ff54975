import CheckScript.Pattern.Size.Basic

/-!
# Trees of words

A machine that tells some words apart, of which the earlier are preferred, is a tree: words that
begin alike share their beginning, but not across the end of a word that is preferred to the later
of them.

A node of the tree is what has been added to it, latest first: ways on, and ends of words.
-/

namespace CheckScript.Pattern

/-- A node of a tree of words. -/
inductive WordTree where
  | blank
  /-- A word ends here. -/
  | stop (earlier : WordTree)
  /-- A byte leads to another node. -/
  | way (byte : UInt8) (node : WordTree) (earlier : WordTree)

namespace WordTree

/-- Changes the node that a byte leads to, if it does so since the last end of a word. -/
def alter? (byte : UInt8) (change : WordTree → WordTree) : WordTree → Option WordTree
  | .way other node earlier =>
    if byte = other then some (.way other (change node) earlier)
    else (earlier.alter? byte change).map (.way other node)
  | _ => none

/-- Adds a word. Of words that end before anything goes on, one is enough. -/
def add : List UInt8 → WordTree → WordTree
  | [], .stop .blank => .stop .blank
  | [], tree => .stop tree
  | byte :: bytes, tree =>
    (tree.alter? byte (add bytes)).getD (.way byte (add bytes .blank) tree)

/-- Whether nothing goes on from a node. -/
def isLeaf : WordTree → Bool
  | .blank => true
  | .stop earlier => earlier.isLeaf
  | .way .. => false

/-- What one more way takes up where there are some already: the first is a plain state, and the
ways of two or more are told apart by a table. -/
def waySize : (already : Nat) → Size
  | 0 => ⟨1, 4⟩
  | 1 => ⟨0, 16⟩
  | _ => ⟨0, 8⟩

/-- What the ways on and the ends of words of a node take up, behind a number of ways. -/
def itemSize (already : Nat) : WordTree → Size
  | .blank => .zero
  | .stop earlier => ⟨0, 4⟩ + earlier.itemSize 0
  | .way _ node earlier =>
    (if node.isLeaf then .zero else .plain 1 + node.itemSize 0) + waySize already
      + earlier.itemSize (already + 1)

/-- The tree of some words. -/
def ofWords (words : List (List UInt8)) : WordTree :=
  words.foldl (fun tree word => tree.add word) .blank

/-- What the machine of a tree takes up, with the state that all words lead to. -/
def size (tree : WordTree) : Size := .plain 2 + tree.itemSize 0

example : (ofWords [[0x61, 0x62], [0x61, 0x63]]).size = ⟨5, 24⟩ := by decide +kernel

end WordTree

end CheckScript.Pattern
