import CheckScript.Pattern.Expr
import CheckScript.Text.Blank
import CheckScript.Text.Digit
import CheckScript.Text.Read
import CheckScript.Text.Split
import CheckScript.Unicode.Recent

/-!
# Reading patterns

`Expr.read?` reads the text of a pattern. Under the flag `x`, which the text itself can set, blanks
and comments between the parts are skipped; the readers are told by `verbose`.

## Contents

* Escapes: what may follow a reverse solidus (`readEscape`).
* Classes between brackets (`readSet`).
* Repetitions, the opening of a group, and the body of a group (`readBody`).

Back references and looking around are refused, as is everything that has no meaning. A pattern may
nest 250 deep, and every name may be given to one group only.

The readers that go around in circles, `readSet` and `readBody`, go on with a shorter text each
time.
-/

namespace CheckScript.Pattern

open Text Unicode

/-! ## Blanks and comments -/

/-- Skips a comment up to behind the end of its line. -/
def skipComment (cs : List Char) : List Char := (cs.dropWhile (· != '\n')).drop 1

theorem length_skipComment_le (cs : List Char) : (skipComment cs).length ≤ cs.length := by
  have := (List.dropWhile_sublist (fun c : Char => c != '\n') (l := cs)).length_le
  simp only [skipComment, List.length_drop]
  omega

/-- Skips blanks and comments. -/
def skipBlanks : List Char → List Char
  | [] => []
  | c :: cs =>
    if isBlank c then skipBlanks cs
    else if c = '#' then skipBlanks (skipComment cs)
    else c :: cs
termination_by cs => cs.length
decreasing_by
  · simp
  · have := length_skipComment_le cs
    simp only [List.length_cons]
    omega

theorem length_skipBlanks_le (cs : List Char) : (skipBlanks cs).length ≤ cs.length := by
  fun_induction skipBlanks cs with
  | case1 => exact Nat.le_refl _
  | case2 c cs _ ih => simp only [List.length_cons]; omega
  | case3 cs _ ih =>
    have := length_skipComment_le cs
    simp only [List.length_cons]
    omega
  | case4 => exact Nat.le_refl _

/-- Skips blanks and comments if they do not count. -/
def skip (verbose : Bool) (cs : List Char) : List Char := if verbose then skipBlanks cs else cs

theorem length_skip_le (verbose : Bool) (cs : List Char) :
    (skip verbose cs).length ≤ cs.length := by
  unfold skip
  split
  · exact length_skipBlanks_le cs
  · exact Nat.le_refl _

/-! ## Numbers -/

/-- Reads the digits of a number, between which blanks may be skipped. -/
def readDigitRun (verbose : Bool) : List Char → List Char × List Char
  | [] => ([], [])
  | c :: cs =>
    if isDigit c then
      let (digits, rest) := readDigitRun verbose (skip verbose cs)
      (c :: digits, rest)
    else ([], c :: cs)
termination_by cs => cs.length
decreasing_by
  have := length_skip_le verbose cs
  simp only [List.length_cons]
  omega

/-- The largest count. -/
def maxCount : Nat := Nat.pow 2 32 - 1

/-- Reads a number between blanks. -/
def readCount (verbose : Bool) (cs : List Char) : Option (Nat × List Char) :=
  let (digits, rest) := readDigitRun verbose (trimStart cs)
  if digits.isEmpty ∨ maxCount < natOfDigits digits then none
  else some (natOfDigits digits, skip verbose (trimStart rest))

/-! ## Escapes -/

/-- What an escape can be. -/
inductive Escape where
  | literal (l : Literal)
  | anchor (a : Anchor)
  | set (item : SetItem)

/-- The characters that have a meaning and lose it behind a reverse solidus. -/
def metaChars : List Char :=
  ['\\', '.', '+', '*', '?', '(', ')', '|', '[', ']', '\x7b', '\x7d', '^', '$', '#', '&', '-', '~']

/-- The characters that stand for themselves behind a reverse solidus: ASCII, and no letters, digits
or angle brackets. -/
def isEscapable (c : Char) : Bool :=
  metaChars.contains c || (c.toNat < 0x80 && !c.isAlphanum && c != '<' && c != '>')

/-- The character of hexadecimal digits. -/
def charOfHex? (digits : List Char) : Option Char := (hexNat? digits).bind scalar?

/-- Reads so many hexadecimal digits. -/
def readHexDigits (verbose : Bool) : Nat → List Char → Option (List Char × List Char)
  | 0, cs => some ([], cs)
  | _ + 1, [] => none
  | n + 1, c :: cs =>
    if (hexValue c).isSome then
      (readHexDigits verbose n (skip verbose cs)).map fun (digits, rest) => (c :: digits, rest)
    else none

/-- Reads what stands before a closing brace, from behind the opening one. -/
def readBraced (verbose : Bool) (cs : List Char) : Option (List Char × List Char) :=
  match _h : skip verbose cs with
  | [] => none
  | c :: rest =>
    if c = '\x7d' then some ([], rest)
    else (readBraced verbose rest).map fun (inside, rest) => (c :: inside, rest)
termination_by cs.length
decreasing_by
  have hle := congrArg List.length _h
  rw [List.length_cons] at hle
  have := length_skip_le ‹Bool› cs
  omega

/-- Reads a character by its code point, of so many digits or between braces. -/
def readCodePoint (verbose : Bool) (count : Nat) (cs : List Char) : Option (Literal × List Char) :=
  match skip verbose cs with
  | '\x7b' :: rest => do
    let (digits, rest) ← readBraced verbose rest
    if digits.isEmpty then none
    else some (⟨← charOfHex? digits, false⟩, rest)
  | cs => do
    let (digits, rest) ← readHexDigits verbose count cs
    some (⟨← charOfHex? digits, count == 2⟩, rest)

/-- The query that stands between the braces of a property, and whether it is denied. -/
def queryOf (inside : List Char) : PropertyQuery × Bool :=
  match breakOn? ['!', '='] inside with
  | some (name, value) => (.valued name value, true)
  | none =>
    match breakOn? [':'] inside with
    | some (name, value) => (.valued name value, false)
    | none =>
      match breakOn? ['='] inside with
      | some (name, value) => (.valued name value, false)
      | none => (.named inside, false)

/-- Reads a property: between braces, or the one letter of a group of categories. -/
def readProperty (verbose negated : Bool) (cs : List Char) : Option (SetItem × List Char) :=
  match skip verbose cs with
  | [] => none
  | '\x7b' :: rest => do
    let (inside, rest) ← readBraced verbose rest
    let (query, denied) := queryOf inside
    some (.property query (negated != denied), rest)
  | c :: rest => if c = '\\' then none else some (.property (.named [c]) negated, rest)

/-- A character of the name of a special word boundary. -/
def isBoundaryChar (c : Char) : Bool := c.isAlpha || c == '-'

/-- Reads the name of a special word boundary up to behind its brace. -/
def readBoundaryName (verbose : Bool) : List Char → Option (List Char × List Char)
  | [] => none
  | c :: cs =>
    if c = '\x7d' then some ([], cs)
    else if isBoundaryChar c then
      (readBoundaryName verbose (skip verbose cs)).map fun (name, rest) => (c :: name, rest)
    else none
termination_by cs => cs.length
decreasing_by
  have := length_skip_le verbose cs
  simp only [List.length_cons]
  omega

/-- The special word boundary of a name. -/
def boundaryOf? (name : List Char) : Option Anchor :=
  if name = "start".toList then some .wordStart
  else if name = "end".toList then some .wordEnd
  else if name = "start-half".toList then some .wordStartHalf
  else if name = "end-half".toList then some .wordEndHalf
  else none

/-- Reads what follows the `b` of a word boundary. A brace behind it opens the name of a special
boundary, unless what follows cannot be a name; then it opens a count. -/
def readBoundary (verbose : Bool) (cs : List Char) : Option (Escape × List Char) :=
  match cs with
  | '\x7b' :: rest =>
    match skip verbose rest with
    | [] => none
    | c :: inside =>
      if isBoundaryChar c then do
        let (name, after) ← readBoundaryName verbose (c :: inside)
        some (.anchor (← boundaryOf? name), after)
      else some (.anchor .wordBoundary, cs)
  | cs => some (.anchor .wordBoundary, cs)

/-- The characters that have a letter. -/
def letterEscape? (c : Char) : Option Char :=
  match c with
  | 'a' => some '\x07'
  | 'f' => some '\x0c'
  | 't' => some '\t'
  | 'n' => some '\n'
  | 'r' => some '\r'
  | 'v' => some '\x0b'
  | _ => none

/-- Reads an escape from behind its reverse solidus. -/
def readEscape (verbose : Bool) : List Char → Option (Escape × List Char)
  | [] => none
  | c :: cs =>
    match c with
    | 'x' => (readCodePoint verbose 2 cs).map fun (l, rest) => (.literal l, rest)
    | 'u' => (readCodePoint verbose 4 cs).map fun (l, rest) => (.literal l, rest)
    | 'U' => (readCodePoint verbose 8 cs).map fun (l, rest) => (.literal l, rest)
    | 'p' => (readProperty verbose false cs).map fun (item, rest) => (.set item, rest)
    | 'P' => (readProperty verbose true cs).map fun (item, rest) => (.set item, rest)
    | 'd' => some (.set (.shorthand .digit false), cs)
    | 'D' => some (.set (.shorthand .digit true), cs)
    | 's' => some (.set (.shorthand .space false), cs)
    | 'S' => some (.set (.shorthand .space true), cs)
    | 'w' => some (.set (.shorthand .word false), cs)
    | 'W' => some (.set (.shorthand .word true), cs)
    | 'A' => some (.anchor .textStart, cs)
    | 'z' => some (.anchor .textEnd, cs)
    | 'b' => readBoundary verbose cs
    | 'B' => some (.anchor .notWordBoundary, cs)
    | '<' => some (.anchor .wordStart, cs)
    | '>' => some (.anchor .wordEnd, cs)
    | c =>
      if isEscapable c then some (.literal ⟨c, false⟩, cs)
      else (letterEscape? c).map fun d => (.literal ⟨d, false⟩, cs)

/-! ## Classes between brackets -/

/-- The names of the ASCII classes. -/
def asciiNames : List (List Char) :=
  ["alnum", "alpha", "ascii", "blank", "cntrl", "digit", "graph", "lower", "print", "punct",
    "space", "upper", "word", "xdigit"].map String.toList

/-- Reads an ASCII class from behind its opening bracket; `none` if there is none there. -/
def readAsciiClass (cs : List Char) : Option (SetItem × List Char) := do
  let afterColon ← stripPrefix? [':'] cs
  let (negated, named) := match stripPrefix? ['^'] afterColon with
    | some rest => (true, rest)
    | none => (false, afterColon)
  let name := named.takeWhile (· != ':')
  let rest ← stripPrefix? [':', ']'] (named.dropWhile (· != ':'))
  if asciiNames.contains name then some (.ascii name negated, rest) else none

/-- Reads one end of a range, or the whole of an item that is no range. -/
def readSetAtom (verbose : Bool) : List Char → Option (Escape × List Char)
  | [] => none
  | '\\' :: cs => readEscape verbose cs
  | c :: cs => some (.literal ⟨c, false⟩, cs)

/-- The item that an escape is in a class; conditions have no place there. -/
def itemOf? : Escape → Option SetItem
  | .literal l => some (.literal l)
  | .set item => some item
  | .anchor _ => none

/-- The literal that an escape is. -/
def literalOf? : Escape → Option Literal
  | .literal l => some l
  | _ => none

/-- The next character that counts. A comment hides no more than the blanks behind its sign. -/
def peek (verbose : Bool) (cs : List Char) : Option Char :=
  if verbose then
    match trimStart cs with
    | '#' :: rest => (trimStart rest).head?
    | rest => rest.head?
  else cs.head?

/-- Reads a range, or an item that is none. A minus between two items makes a range of them, unless
a bracket or another minus follows it. -/
def readSetRange (verbose : Bool) (cs : List Char) : Option (SetItem × List Char) := do
  let (first, rest) ← readSetAtom verbose cs
  match skip verbose rest with
  | [] => none
  | '-' :: after =>
    if peek verbose after = some ']' ∨ peek verbose after = some '-' then
      some (← itemOf? first, '-' :: after)
    else
      let (last, rest) ← readSetAtom verbose (skip verbose after)
      let first ← literalOf? first
      let last ← literalOf? last
      if first.char ≤ last.char then some (.range first last, rest) else none
  | rest => some (← itemOf? first, rest)

/-- What has been read of the inside of a pair of brackets: the operation that is pending, and the
parts of its right side, last first. -/
structure SetState where
  pending : Option (SetExpr × SetOp)
  parts : List SetItem

namespace SetState

/-- Takes up a part. -/
def push (state : SetState) (item : SetItem) : SetState :=
  { state with parts := item :: state.parts }

/-- The set that has been read. -/
def toSet (state : SetState) : SetExpr :=
  let right := SetExpr.items state.parts.reverse
  match state.pending with
  | some (left, op) => .op op left right
  | none => right

/-- Takes what has been read for the left side of an operation. -/
def pushOp (state : SetState) (op : SetOp) : SetState := ⟨some (state.toSet, op), []⟩

end SetState

/-- Takes minus signs off the front as parts of the class. -/
def readLeadingMinus (verbose : Bool) : List Char → List SetItem × List Char
  | '-' :: cs =>
    let (items, rest) := readLeadingMinus verbose (skip verbose cs)
    (.literal ⟨'-', false⟩ :: items, rest)
  | cs => ([], cs)
termination_by cs => cs.length
decreasing_by
  have := length_skip_le verbose cs
  simp only [List.length_cons]
  omega

/-- Reads the start of a class from behind its opening bracket: whether it is negated, and what
stands at the start for itself, minus signs or else one closing bracket. -/
def readSetStart (verbose : Bool) (cs : List Char) : (Bool × SetState) × List Char :=
  let (negated, cs) := match skip verbose cs with
    | '^' :: rest => (true, skip verbose rest)
    | cs => (false, cs)
  match readLeadingMinus verbose cs with
  | ([], ']' :: rest) => ((negated, ⟨none, [.literal ⟨']', false⟩]⟩), rest)
  | (items, rest) => ((negated, ⟨none, items⟩), rest)

/-- The operation that starts a text. -/
def readSetOp : List Char → Option (SetOp × List Char)
  | '&' :: '&' :: rest => some (.inter, rest)
  | '-' :: '-' :: rest => some (.diff, rest)
  | '~' :: '~' :: rest => some (.symmDiff, rest)
  | _ => none

/-- What was read at the front of a text, and what is left, which is no longer than the text. -/
structure Ended (α : Type) (cs : List Char) where
  value : α
  rest : List Char
  notLonger : rest.length ≤ cs.length

/-- What was read behind something else. -/
def Ended.ofShorter {α : Type} {cs ds : List Char} (r : Ended α cs) (h : cs.length ≤ ds.length) :
    Ended α ds :=
  ⟨r.value, r.rest, Nat.le_trans r.notLonger h⟩

/-- Reads the inside of a pair of brackets up to behind the closing one. -/
def readSet (verbose : Bool) (state : SetState) (cs : List Char) : Option (Ended SetExpr cs) :=
  match h : skip verbose cs with
  | [] => none
  | c :: rest =>
    have hlt : rest.length < cs.length := by
      have := length_skip_le verbose cs
      rw [h, List.length_cons] at this
      omega
    if c = ']' then some ⟨state.toSet, rest, Nat.le_of_lt hlt⟩
    else if c = '[' then
      match Read.ofPair? rest (readAsciiClass rest) with
      | some r =>
        (readSet verbose (state.push r.value) r.rest).map fun e =>
          e.ofShorter (Nat.le_of_lt (Nat.lt_trans r.shorter hlt))
      | none =>
        match Read.ofPair? (c :: rest) (some (readSetStart verbose rest)) with
        | none => none
        | some start =>
          have hstart : start.rest.length < cs.length := by
            have := start.shorter
            simp only [List.length_cons] at this
            omega
          match readSet verbose start.value.2 start.rest with
          | none => none
          | some inner =>
            have hinner : inner.rest.length < cs.length :=
              Nat.lt_of_le_of_lt inner.notLonger hstart
            (readSet verbose (state.push (.bracketed inner.value start.value.1)) inner.rest).map
              fun e => e.ofShorter (Nat.le_of_lt hinner)
    else
      match Read.ofPair? (c :: rest) (readSetOp (c :: rest)) with
      | some r =>
        have hr : r.rest.length < cs.length := by
          have := r.shorter
          simp only [List.length_cons] at this
          omega
        (readSet verbose (state.pushOp r.value) r.rest).map fun e => e.ofShorter (Nat.le_of_lt hr)
      | none =>
        match Read.ofPair? (c :: rest) (readSetRange verbose (c :: rest)) with
        | none => none
        | some r =>
          have hr : r.rest.length < cs.length := by
            have := r.shorter
            simp only [List.length_cons] at this
            omega
          (readSet verbose (state.push r.value) r.rest).map fun e => e.ofShorter (Nat.le_of_lt hr)
termination_by cs.length
decreasing_by
  all_goals try omega
  have := r.shorter
  omega

/-- Reads a class from behind its opening bracket. -/
def readClass (verbose : Bool) (cs : List Char) : Option (SetItem × List Char) :=
  let ((negated, state), rest) := readSetStart verbose cs
  (readSet verbose state rest).map fun e => (.bracketed e.value negated, e.rest)

/-! ## Repetitions -/

/-- Whether a question mark follows, and what is behind it. -/
def readLazy : List Char → Bool × List Char
  | '?' :: rest => (true, rest)
  | cs => (false, cs)

/-- Reads the counts of a repetition from behind its opening brace. -/
def readCounts (verbose : Bool) (cs : List Char) : Option ((Nat × Option Nat) × List Char) := do
  let (least, rest) ← readCount verbose (skip verbose cs)
  match rest with
  | '\x7d' :: rest => some ((least, some least), rest)
  | ',' :: rest =>
    match skip verbose rest with
    | '\x7d' :: rest => some ((least, none), rest)
    | rest =>
      let (most, rest) ← readCount verbose rest
      match rest with
      | '\x7d' :: rest => if least ≤ most then some ((least, some most), rest) else none
      | _ => none
  | _ => none

/-- Reads the counts of a repetition, and whether it is lazy, from behind its sign. -/
def readRepetition (verbose : Bool) (sign : Char) (cs : List Char) :
    Option ((Nat × Option Nat × Bool) × List Char) :=
  let withLazy (least : Nat) (most : Option Nat) (rest : List Char) :=
    let (isLazy, rest) := readLazy rest
    some ((least, most, !isLazy), rest)
  match sign with
  | '?' => withLazy 0 (some 1) cs
  | '*' => withLazy 0 none cs
  | '+' => withLazy 1 none cs
  | _ => (readCounts verbose cs).bind fun ((least, most), rest) =>
      withLazy least most (skip verbose rest)

/-! ## Groups -/

/-- The flag of a letter. -/
def flagOf? (c : Char) : Option Flag :=
  match c with
  | 'i' => some .ignoreCase
  | 'm' => some .multiLine
  | 's' => some .dotAll
  | 'U' => some .swapGreed
  | 'u' => some .unicode
  | 'R' => some .crlf
  | 'x' => some .verbose
  | _ => none

/-- Flags read so far: what they change, whether a minus has been among them, and whether it was the
last thing read. -/
structure FlagState where
  change : FlagChange
  negating : Bool
  dangling : Bool

/-- Reads flags up to behind the colon or parenthesis that ends them; each flag and the minus may
stand once. Answers whether it was the colon. -/
def readFlags (state : FlagState) : List Char → Option ((FlagChange × Bool) × List Char)
  | [] => none
  | c :: cs =>
    if c = ':' ∨ c = ')' then
      if state.dangling then none else some ((state.change, c = ':'), cs)
    else if c = '-' then
      if state.negating then none else readFlags ⟨state.change, true, true⟩ cs
    else
      match flagOf? c with
      | none => none
      | some flag =>
        if (state.change.get? flag).isSome then none
        else if state.negating then
          readFlags ⟨⟨state.change.on, flag :: state.change.off⟩, true, false⟩ cs
        else readFlags ⟨⟨flag :: state.change.on, state.change.off⟩, false, false⟩ cs

/-- A character of the name of a group, at its start or behind it. -/
def isNameChar (first : Bool) (c : Char) : Bool :=
  c == '_' || Recent.alphabetic.mem c
    || (!first && (c == '.' || c == '[' || c == ']' || Recent.number.mem c))

/-- Reads the name of a group up to behind the angle bracket that closes it. -/
def readGroupName (cs : List Char) : Option (List Char × List Char) :=
  let name := cs.takeWhile (· != '>')
  match name, cs.dropWhile (· != '>') with
  | first :: others, _ :: rest =>
    if isNameChar true first && others.all (isNameChar false) then some (name, rest) else none
  | _, _ => none

/-- What opens with a parenthesis. -/
inductive Opening where
  | group (kind : GroupKind)
  | flags (change : FlagChange)

/-- Reads the opening of a group from behind its parenthesis. -/
def readOpening (verbose : Bool) (cs : List Char) : Option (Opening × List Char) :=
  match skip verbose cs with
  | '?' :: 'P' :: '<' :: rest =>
    (readGroupName rest).map fun (name, rest) => (.group (.capture (some name)), rest)
  | '?' :: '<' :: '=' :: _ => none
  | '?' :: '<' :: '!' :: _ => none
  | '?' :: '<' :: rest =>
    (readGroupName rest).map fun (name, rest) => (.group (.capture (some name)), rest)
  | '?' :: rest =>
    match readFlags ⟨.none, false, false⟩ rest with
    | none => none
    | some ((change, true), rest) => some (.group (.plain change), rest)
    | some ((change, false), rest) =>
      if change = .none then none else some (.flags change, rest)
  | rest => some (.group (.capture none), rest)

/-- What has been read of the body of a group: the branches that are complete and the parts of the
one that is not, last first, and whether blanks count. -/
structure BodyState where
  done : List Expr
  parts : List Expr
  verbose : Bool

namespace BodyState

/-- Takes up a part. -/
def push (state : BodyState) (part : Expr) : BodyState :=
  { state with parts := part :: state.parts }

/-- The branch that is being read. -/
def branch (state : BodyState) : Expr :=
  match state.parts with
  | [part] => part
  | parts => .sequence parts.reverse

/-- Starts another branch. -/
def nextBranch (state : BodyState) : BodyState := ⟨state.branch :: state.done, [], state.verbose⟩

/-- The body that has been read. -/
def toExpr (state : BodyState) : Expr :=
  match state.done with
  | [] => state.branch
  | done => .branches (state.branch :: done).reverse

/-- Repeats the last part; there has to be one, and flags cannot be repeated. -/
def repeatLast (state : BodyState) (least : Nat) (most : Option Nat) (greedy : Bool) :
    Option BodyState :=
  match state.parts with
  | [] => none
  | .flags _ :: _ => none
  | part :: parts => some { state with parts := .repeated part least most greedy :: parts }

/-- Takes up flags in the middle of a group. -/
def setFlags (state : BodyState) (change : FlagChange) : BodyState :=
  { state.push (.flags change) with verbose := (change.get? .verbose).getD state.verbose }

end BodyState

/-- Reads a part that is neither group nor class nor repetition. -/
def readAtom (verbose : Bool) : List Char → Option (Expr × List Char)
  | [] => none
  | '\\' :: cs =>
    (readEscape verbose cs).map fun (escape, rest) =>
      (match escape with
        | .literal l => .literal l
        | .anchor a => .anchor a
        | .set item => .set item, rest)
  | '.' :: cs => some (.dot, cs)
  | '^' :: cs => some (.anchor .lineStart, cs)
  | '$' :: cs => some (.anchor .lineEnd, cs)
  | c :: cs => some (.literal ⟨c, false⟩, cs)

/-- Takes up the next part that is no group. -/
def readPart (state : BodyState) : List Char → Option (BodyState × List Char)
  | [] => none
  | c :: cs =>
    if c = '[' then
      (readClass state.verbose cs).map fun (item, rest) => (state.push (.set item), rest)
    else if c = '?' ∨ c = '*' ∨ c = '+' ∨ c = '\x7b' then
      match readRepetition state.verbose c cs with
      | none => none
      | some ((least, most, greedy), rest) =>
        (state.repeatLast least most greedy).map fun state => (state, rest)
    else (readAtom state.verbose (c :: cs)).map fun (part, rest) => (state.push part, rest)

/-- Reads the body of a group up to its closing parenthesis or to the end of the text. -/
def readBody (state : BodyState) (cs : List Char) : Option (Ended Expr cs) :=
  match h : skip state.verbose cs with
  | [] => some ⟨state.toExpr, [], Nat.zero_le _⟩
  | c :: rest =>
    have hlt : rest.length < cs.length := by
      have := length_skip_le state.verbose cs
      rw [h, List.length_cons] at this
      omega
    if c = ')' then some ⟨state.toExpr, c :: rest, by rw [List.length_cons]; omega⟩
    else if c = '|' then
      (readBody state.nextBranch rest).map fun e => e.ofShorter (Nat.le_of_lt hlt)
    else if c = '(' then
      match Read.ofPair? (c :: rest) (readOpening state.verbose rest) with
      | none => none
      | some opening =>
        have hopening : opening.rest.length < cs.length := by
          have := opening.shorter
          simp only [List.length_cons] at this
          omega
        match opening.value with
        | .flags change =>
          (readBody (state.setFlags change) opening.rest).map fun e =>
            e.ofShorter (Nat.le_of_lt hopening)
        | .group kind =>
          let verbose := match kind with
            | .plain change => (change.get? .verbose).getD state.verbose
            | .capture _ => state.verbose
          match readBody ⟨[], [], verbose⟩ opening.rest with
          | none => none
          | some inner =>
            match hinner : inner.rest with
            | [] => none
            | _ :: after =>
              have hafter : after.length < cs.length := by
                have := inner.notLonger
                rw [hinner, List.length_cons] at this
                omega
              (readBody (state.push (.group kind inner.value)) after).map fun e =>
                e.ofShorter (Nat.le_of_lt hafter)
    else
      match Read.ofPair? (c :: rest) (readPart state (c :: rest)) with
      | none => none
      | some r =>
        have hr : r.rest.length < cs.length := by
          have := r.shorter
          simp only [List.length_cons] at this
          omega
        (readBody r.value r.rest).map fun e => e.ofShorter (Nat.le_of_lt hr)
termination_by cs.length

/-- How deep a pattern may nest. -/
def maxNesting : Nat := 250

/-- Whether every name is there once. -/
def distinct : List (List Char) → Bool
  | [] => true
  | name :: names => !names.contains name && distinct names

/-- Reads a pattern. -/
def Expr.read? (cs : List Char) : Option Expr :=
  match readBody ⟨[], [], false⟩ cs with
  | some ⟨expr, [], _⟩ =>
    if expr.depth ≤ maxNesting && distinct expr.groupNames then some expr else none
  | _ => none

end CheckScript.Pattern
