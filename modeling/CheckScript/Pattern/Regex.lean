import CheckScript.Pattern.Classes
import CheckScript.Pattern.Reader

/-!
# What patterns mean

`Regex` is a pattern after its flags have had their effect: characters are sets, anchors say exactly
where they hold, repetitions are greedy or not, and groups have their numbers. `Expr.toRegex?` gives
the meaning of a written pattern; classes that have no meaning have none, and neither have patterns
that would have to match a part of a character.

Patterns are put together in their simplest form, which says how large they are:

* a set of one character is a text, and texts that meet are one text (`Regex.ofSet`,
  `Regex.sequence`);
* a sequence has no sequence in it, and no union a union;
* a union of single characters, or of sets, is a set, and what all branches of a union begin with
  stands in front of it (`Regex.branches`);
* a repetition of something that takes up no text is one repetition at most, and no repetition at
  all is the empty pattern: groups inside of it are gone (`Regex.repeated`).
-/

namespace CheckScript.Pattern

open Text Unicode

/-- A condition on a place in the text. -/
inductive Look where
  | textStart
  | textEnd
  | lineStart
  | lineEnd
  /-- As `lineStart`, where a carriage return with or without a newline ends a line too. -/
  | crlfStart
  /-- As `lineEnd`, where a carriage return with or without a newline ends a line too. -/
  | crlfEnd
  /-- What words are made of decides where they begin and end. -/
  | wordBoundary (word : CharSet)
  | notWordBoundary (word : CharSet)
  | wordStart (word : CharSet)
  | wordEnd (word : CharSet)
  | wordStartHalf (word : CharSet)
  | wordEndHalf (word : CharSet)
  deriving DecidableEq

/-- A pattern by its meaning. -/
inductive Regex where
  | empty
  /-- Characters one behind the other, at least one. -/
  | text (chars : List Char)
  | char (set : CharSet)
  | look (condition : Look)
  | group (index : Nat) (name : Option String) (body : Regex)
  | seq (parts : List Regex)
  /-- Branches of which the earlier are preferred. -/
  | alt (branches : List Regex)
  | loop (body : Regex) (min : Nat) (max : Option Nat) (greedy : Bool)

namespace Regex

/-! ## What a pattern takes up -/

mutual

/-- Whether a pattern takes up no text, wherever it holds. -/
def takesNothing : Regex → Bool
  | .empty => true
  | .text _ => false
  | .char _ => false
  | .look _ => true
  | .group _ _ body => body.takesNothing
  | .seq parts => allTakeNothing parts
  | .alt branches => allTakeNothing branches
  | .loop body _ max _ => max.isSome && body.takesNothing

/-- Whether no pattern of a list takes up any text. -/
def allTakeNothing : List Regex → Bool
  | [] => true
  | regex :: regexes => regex.takesNothing && allTakeNothing regexes

end

mutual

/-- The least number of characters that a pattern takes up. There is none for a set without
characters, and for what it is a part of. -/
def least? : Regex → Option Nat
  | .empty => some 0
  | .text chars => some chars.length
  | .char set => if set.ranges.isEmpty then none else some 1
  | .look _ => some 0
  | .group _ _ body => body.least?
  | .seq parts => (leastOfEach? parts).map List.sum
  | .alt branches => (leastOfEach? branches).bind List.min?
  | .loop body min _ _ => body.least?.map (· * min)

/-- The least number of characters that each pattern of a list takes up. -/
def leastOfEach? : List Regex → Option (List Nat)
  | [] => some []
  | regex :: regexes => do return (← regex.least?) :: (← leastOfEach? regexes)

end

/-- Whether a pattern takes up some text, wherever it matches. -/
def takesSome (regex : Regex) : Bool := regex.least?.any (0 < ·)

/-! ## Patterns that are the same -/

mutual

/-- Whether two patterns are the same. -/
def same : Regex → Regex → Bool
  | .empty, .empty => true
  | .text a, .text b => a == b
  | .char a, .char b => a == b
  | .look a, .look b => a == b
  | .group i _ a, .group j _ b => i == j && a.same b
  | .seq a, .seq b => sameAll a b
  | .alt a, .alt b => sameAll a b
  | .loop a min max greedy, .loop b min' max' greedy' =>
    min == min' && max == max' && greedy == greedy' && a.same b
  | _, _ => false

/-- Whether two lists have the same patterns. -/
def sameAll : List Regex → List Regex → Bool
  | [], [] => true
  | a :: as, b :: bs => a.same b && sameAll as bs
  | _, _ => false

end

/-- The patterns that two lists begin with. -/
def sharedWith : List Regex → List Regex → List Regex
  | a :: as, b :: bs => if a.same b then a :: sharedWith as bs else []
  | _, _ => []

/-! ## Putting patterns together -/

/-- The pattern of a character of a set. -/
def ofSet (set : CharSet) : Regex :=
  match set.ranges with
  | [(first, last)] => if first = last then .text [Char.ofNat first] else .char set
  | _ => .char set

/-- A repetition. -/
def repeated (body : Regex) (min : Nat) (max : Option Nat) (greedy : Bool) : Regex :=
  let (min, max) :=
    if body.takesNothing then (Nat.min min 1, some ((max.map (Nat.min · 1)).getD 1)) else (min, max)
  if max = some 0 then .empty
  else if min = 1 ∧ max = some 1 then body
  else .loop body min max greedy

/-- The parts of which a pattern is the sequence. -/
def parts : Regex → List Regex
  | .empty => []
  | .seq parts => parts
  | part => [part]

/-- A part in front of others; texts that meet are one. -/
def inFront : Regex → List Regex → List Regex
  | .text front, .text back :: parts => .text (front ++ back) :: parts
  | part, parts => part :: parts

/-- Patterns one behind the other. -/
def sequence (regexes : List Regex) : Regex :=
  match (regexes.flatMap parts).foldr inFront [] with
  | [] => .empty
  | [part] => part
  | parts => .seq parts

/-- The branches of which a pattern is the union. -/
def branchesOf : Regex → List Regex
  | .alt branches => branches
  | branch => [branch]

/-- The set that a pattern is, if it is a character. -/
def singleSet? : Regex → Option CharSet
  | .text [c] => some (.single c)
  | _ => none

/-- The set that a pattern is, if it is one of more than one character. -/
def charSet? : Regex → Option CharSet
  | .char set => some set
  | _ => none

/-- Patterns of which the earlier are preferred, as a set if they are all characters or all sets. -/
def choice (regexes : List Regex) : Regex :=
  match regexes.flatMap branchesOf with
  | [branch] => branch
  | branches =>
    match (branches.mapM singleSet?).or (branches.mapM charSet?) with
    | some sets => ofSet (.unions sets)
    | none => .alt branches

/-- What some branches begin with, each of which has to be a sequence. -/
def sharedStart : List Regex → List Regex
  | [] => []
  | [.seq parts] => parts
  | .seq parts :: branches => sharedWith parts (sharedStart branches)
  | _ => []

/-- Patterns of which the earlier are preferred; what they all begin with stands in front. -/
def branches (regexes : List Regex) : Regex :=
  match choice regexes with
  | .alt branches =>
    match sharedStart branches with
    | [] => .alt branches
    | start =>
      let rests := branches.map fun branch => sequence (branch.parts.drop start.length)
      sequence (start ++ [choice rests])
  | regex => regex

/-! ## Groups -/

mutual

/-- The groups of a pattern with their names, in the order of their numbers. -/
def groups : Regex → List (Nat × Option String)
  | .group index name body => (index, name) :: body.groups
  | .seq parts => groupsOfAll parts
  | .alt branches => groupsOfAll branches
  | .loop body _ _ _ => body.groups
  | _ => []

/-- The groups of some patterns, those of the first in front. -/
def groupsOfAll : List Regex → List (Nat × Option String)
  | [] => []
  | regex :: regexes => regex.groups ++ groupsOfAll regexes

end

end Regex

/-! ## Flags -/

/-- The flags that hold at a place of a pattern. -/
structure Mode where
  ignoreCase : Bool
  multiLine : Bool
  dotAll : Bool
  swapGreed : Bool
  unicode : Bool
  crlf : Bool

namespace Mode

/-- The flags at the start of a pattern. -/
def initial : Mode := ⟨false, false, false, false, true, false⟩

/-- The flags behind a change. -/
def apply (mode : Mode) (change : FlagChange) : Mode where
  ignoreCase := (change.get? .ignoreCase).getD mode.ignoreCase
  multiLine := (change.get? .multiLine).getD mode.multiLine
  dotAll := (change.get? .dotAll).getD mode.dotAll
  swapGreed := (change.get? .swapGreed).getD mode.swapGreed
  unicode := (change.get? .unicode).getD mode.unicode
  crlf := (change.get? .crlf).getD mode.crlf

/-- The set with the variants in case of its characters, if case does not count. -/
def fold (mode : Mode) (set : CharSet) : CharSet :=
  if mode.ignoreCase then if mode.unicode then set.closeCase else closeAsciiCase set else set

/-- A set that is folded and then negated if it is to be. Outside of Unicode what a negated class
matches need not be a character. -/
def foldNegate (mode : Mode) (negated : Bool) (set : CharSet) : Option CharSet :=
  if negated then if mode.unicode then some (mode.fold set).complement else none
  else some (mode.fold set)

/-- The characters of words. -/
def word (mode : Mode) : CharSet := if mode.unicode then wordChars else asciiWordChars

end Mode

/-! ## Sets -/

/-- Whether a literal can be an item of a class. -/
def Literal.inClass (mode : Mode) (l : Literal) : Bool := mode.unicode || l.char.toNat < 0x80

/-- The set of a literal between brackets. -/
def Literal.classSet? (mode : Mode) (first last : Literal) : Option CharSet :=
  if first.inClass mode && last.inClass mode then
    some (.range first.char.toNat last.char.toNat)
  else none

/-- The set of a shorthand. -/
def Shorthand.set? (mode : Mode) (negated : Bool) (kind : Shorthand) : Option CharSet :=
  if mode.unicode then some (if negated then kind.set.complement else kind.set)
  else if negated then none
  else some kind.asciiSet

/-- The combination of two sets. -/
def SetOp.apply : SetOp → CharSet → CharSet → CharSet
  | .inter => .inter
  | .diff => .diff
  | .symmDiff => .symmDiff

mutual

/-- The set of a part of a class. -/
def SetItem.set? (mode : Mode) : SetItem → Option CharSet
  | .literal l => Literal.classSet? mode l l
  | .range first last => Literal.classSet? mode first last
  | .shorthand kind negated => kind.set? mode negated
  | .property query negated =>
    if mode.unicode then query.set?.bind (mode.foldNegate negated) else none
  | .ascii name negated => mode.foldNegate negated (asciiClass name)
  | .bracketed set negated => (set.set? mode).bind (mode.foldNegate negated)

/-- The set of what stands between brackets. -/
def SetExpr.set? (mode : Mode) : SetExpr → Option CharSet
  | .items parts => (itemSets? mode parts).map .unions
  | .op kind left right => do
    let left ← left.set? mode
    let right ← right.set? mode
    return kind.apply (mode.fold left) (mode.fold right)

/-- The sets of the parts of a class. -/
def itemSets? (mode : Mode) : List SetItem → Option (List CharSet)
  | [] => some []
  | item :: items => do return (← item.set? mode) :: (← itemSets? mode items)

end

/-- The characters that a literal stands for; a byte beyond ASCII is no character. -/
def Literal.set? (mode : Mode) (l : Literal) : Option CharSet :=
  if !mode.unicode && l.byte && 0x80 ≤ l.char.toNat then none
  else some (mode.fold (.single l.char))

/-- The characters that the dot stands for. -/
def dotSet? (mode : Mode) : Option CharSet :=
  if !mode.unicode then none
  else if mode.dotAll then some .all
  else if mode.crlf then some (.complement (.ofText "A D"))
  else some (.complement (.ofText "A"))

/-- The condition of an anchor. -/
def Anchor.look (mode : Mode) : Anchor → Look
  | .lineStart =>
    if mode.multiLine then if mode.crlf then .crlfStart else .lineStart else .textStart
  | .lineEnd => if mode.multiLine then if mode.crlf then .crlfEnd else .lineEnd else .textEnd
  | .textStart => .textStart
  | .textEnd => .textEnd
  | .wordBoundary => .wordBoundary mode.word
  | .notWordBoundary => .notWordBoundary mode.word
  | .wordStart => .wordStart mode.word
  | .wordEnd => .wordEnd mode.word
  | .wordStartHalf => .wordStartHalf mode.word
  | .wordEndHalf => .wordEndHalf mode.word

/-! ## Patterns -/

/-- The meaning of a part, the flags behind it, and the number of the next group. -/
structure Meaning where
  regex : Regex
  mode : Mode
  next : Nat

/-- The meanings of some parts, the flags behind them, and the number of the next group. -/
structure Meanings where
  regexes : List Regex
  mode : Mode
  next : Nat

mutual

/-- The meaning of a part at which certain flags hold, where the next group has number `next`. -/
def Expr.meaning? (mode : Mode) (next : Nat) : Expr → Option Meaning
  | .flags change => some ⟨.empty, mode.apply change, next⟩
  | .literal l => (l.set? mode).map fun set => ⟨.ofSet set, mode, next⟩
  | .dot => (dotSet? mode).map fun set => ⟨.ofSet set, mode, next⟩
  | .anchor a => some ⟨.look (a.look mode), mode, next⟩
  | .set item => (item.set? mode).map fun set => ⟨.ofSet set, mode, next⟩
  | .repeated body min max greedy =>
    (body.meaning? mode next).map fun m =>
      { m with regex := m.regex.repeated min max (greedy != mode.swapGreed) }
  | .group (.plain change) body =>
    (body.meaning? (mode.apply change) next).map fun m => { m with mode }
  | .group (.capture name) body =>
    (body.meaning? mode (next + 1)).map fun m =>
      ⟨.group next (name.map String.ofList) m.regex, mode, m.next⟩
  | .sequence parts =>
    (partMeanings? mode next parts).map fun m => ⟨.sequence m.regexes, m.mode, m.next⟩
  | .branches parts =>
    (partMeanings? mode next parts).map fun m => ⟨.branches m.regexes, m.mode, m.next⟩

/-- The meanings of some parts, each with the flags that hold behind the one before. -/
def partMeanings? (mode : Mode) (next : Nat) : List Expr → Option Meanings
  | [] => some ⟨[], mode, next⟩
  | part :: parts => do
    let first ← part.meaning? mode next
    let others ← partMeanings? first.mode first.next parts
    return ⟨first.regex :: others.regexes, others.mode, others.next⟩

end

/-- The meaning of a pattern. -/
def Expr.toRegex? (expr : Expr) : Option Regex :=
  (expr.meaning? .initial 1).map (·.regex)

end CheckScript.Pattern
