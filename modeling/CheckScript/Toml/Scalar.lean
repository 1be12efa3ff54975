import CheckScript.Text.Read
import CheckScript.Text.Split
import CheckScript.Toml.Basic

/-!
# TOML strings, keys and numbers

Readers of what a document writes without brackets, from the front of a text.

## Strings

Four forms: between quotation marks, where a reverse solidus escapes, or between apostrophes, where
nothing does; on one line, or between three of the marks on several. Inside of the latter one or two
marks may stand, also at the end. A line ending is one newline, however it is written.
-/

namespace CheckScript.Toml

open Text

/-! ## Blanks, comments and line endings -/

/-- A blank within a line. -/
def isWs (c : Char) : Bool := c == ' ' || c == '\t'

/-- The text from its first character that is no blank. -/
def skipWs (cs : List Char) : List Char := cs.dropWhile isWs

/-- Reads a line ending. -/
def readNewline : List Char → Option (List Char)
  | '\n' :: rest => some rest
  | '\r' :: '\n' :: rest => some rest
  | _ => none

/-- A character that may stand in texts and comments: no control, except the tab. -/
def isPlain (c : Char) : Bool :=
  c == '\t' || (0x20 ≤ c.toNat && c.toNat ≤ 0x7E) || 0x80 ≤ c.toNat

/-- Skips a comment, if there is one. -/
def skipComment : List Char → List Char
  | '#' :: rest => rest.dropWhile isPlain
  | cs => cs

/-- Reads the end of a line: blanks, a comment, and a line ending or the end of the document. -/
def readLineEnd (cs : List Char) : Option (List Char) :=
  match skipComment (skipWs cs) with
  | [] => some []
  | rest => readNewline rest

/-! ## Strings on one line -/

/-- Reads an escape from behind its reverse solidus. -/
def readEscape : List Char → Option (Char × List Char)
  | 'b' :: rest => some ('\x08', rest)
  | 'f' :: rest => some ('\x0c', rest)
  | 'n' :: rest => some ('\n', rest)
  | 'r' :: rest => some ('\r', rest)
  | 't' :: rest => some ('\t', rest)
  | '"' :: rest => some ('"', rest)
  | '\\' :: rest => some ('\\', rest)
  | 'u' :: rest => codePoint 4 rest
  | 'U' :: rest => codePoint 8 rest
  | _ => none
where
  /-- Reads the hexadecimal digits of a character. -/
  codePoint (count : Nat) (rest : List Char) : Option (Char × List Char) := do
    if rest.length < count then none
    else return (← scalar? (← hexNat? (rest.take count)), rest.drop count)

/-- Reads a text up to behind its quotation mark. -/
def readBasic (cs : List Char) : Option (List Char × List Char) :=
  match cs with
  | [] => none
  | '"' :: rest => some ([], rest)
  | '\\' :: rest =>
    match Read.ofPair? rest (readEscape rest) with
    | none => none
    | some r => (readBasic r.rest).map fun (read, after) => (r.value :: read, after)
  | c :: rest =>
    if isPlain c then (readBasic rest).map fun (read, after) => (c :: read, after) else none
termination_by cs.length
decreasing_by
  · have := r.shorter
    simp only [List.length_cons]
    omega
  · simp

/-- Reads a text up to behind its apostrophe. -/
def readLiteral : List Char → Option (List Char × List Char)
  | [] => none
  | '\'' :: rest => some ([], rest)
  | c :: rest =>
    if isPlain c then (readLiteral rest).map fun (read, after) => (c :: read, after) else none

/-! ## Strings on several lines -/

/-- Skips blanks and line endings. -/
def skipLines (cs : List Char) : List Char :=
  match cs with
  | '\n' :: rest => skipLines rest
  | '\r' :: '\n' :: rest => skipLines rest
  | ' ' :: rest => skipLines rest
  | '\t' :: rest => skipLines rest
  | cs => cs

/-- Reads the end of a line whose line ending does not count, from behind its reverse solidus, and
what is blank behind it. -/
def readContinuation (cs : List Char) : Option (List Char) :=
  (readNewline (skipWs cs)).map skipLines

/-- What stands at the front of the body of a string on several lines. -/
inductive BodyPart where
  /-- A character of the text. -/
  | char (c : Char)
  /-- Something that adds nothing to the text. -/
  | nothing
  /-- Marks that end the string, behind marks that belong to the text. -/
  | close (inside : List Char)

/-- Reads a run of marks: one or two belong to the text, three of up to five end the string. -/
def readMarks (mark : Char) (cs : List Char) : Option (BodyPart × List Char) :=
  let run := (cs.takeWhile (· == mark)).length
  if run = 0 then none
  else if run < 3 then some (.char mark, cs.drop 1)
  else
    let taken := min run 5
    some (.close (List.replicate (taken - 3) mark), cs.drop taken)

/-- Reads the next part of the body of a string on several lines; escapes count between quotation
marks only. -/
def readBodyPart (mark : Char) (cs : List Char) : Option (BodyPart × List Char) :=
  match readMarks mark cs, readNewline cs, cs with
  | some part, _, _ => some part
  | none, some rest, _ => some (.char '\n', rest)
  | none, none, [] => none
  | none, none, c :: rest =>
    if c = '\\' ∧ mark = '"' then
      match readContinuation rest with
      | some rest => some (.nothing, rest)
      | none => (readEscape rest).map fun (c, rest) => (.char c, rest)
    else if isPlain c then some (.char c, rest)
    else none

/-- Reads the body of a string on several lines up to behind its marks. -/
def readBody (mark : Char) (cs : List Char) : Option (List Char × List Char) :=
  match Read.ofPair? cs (readBodyPart mark cs) with
  | none => none
  | some ⟨.close inside, rest, _⟩ => some (inside, rest)
  | some ⟨.char c, rest, _⟩ => (readBody mark rest).map fun (read, after) => (c :: read, after)
  | some ⟨.nothing, rest, _⟩ => readBody mark rest
termination_by cs.length

/-- Reads a string of any form. -/
def readString (cs : List Char) : Option (List Char × List Char) :=
  match cs with
  | '"' :: '"' :: '"' :: rest => readBody '"' ((readNewline rest).getD rest)
  | '"' :: rest => readBasic rest
  | '\'' :: '\'' :: '\'' :: rest => readBody '\'' ((readNewline rest).getD rest)
  | '\'' :: rest => readLiteral rest
  | _ => none

/-! ## Keys -/

/-- A character of a key without marks. -/
def isKeyChar (c : Char) : Bool := c.isAlphanum || c == '-' || c == '_'

/-- Reads one part of a key: a string on one line, or a run of letters, digits and hyphens. -/
def readKeyPart (cs : List Char) : Option (String × List Char) :=
  match cs with
  | '"' :: rest => (readBasic rest).map fun (read, rest) => (String.ofList read, rest)
  | '\'' :: rest => (readLiteral rest).map fun (read, rest) => (String.ofList read, rest)
  | cs =>
    let name := cs.takeWhile isKeyChar
    if name.isEmpty then none else some (String.ofList name, cs.dropWhile isKeyChar)

/-- Reads a key: parts with dots between them, and blanks around everything. -/
def readDotted (cs : List Char) : Option (List String × List Char) :=
  match Read.ofPair? cs (readKeyPart (skipWs cs)) with
  | none => none
  | some ⟨part, rest, _⟩ =>
    match _hr : skipWs rest with
    | [] => some ([part], [])
    | c :: after =>
      if c = '.' then (readDotted after).map fun (parts, rest) => (part :: parts, rest)
      else some ([part], c :: after)
termination_by cs.length
decreasing_by
  have h₁ := (List.dropWhile_sublist isWs (l := rest)).length_le
  have h₂ := congrArg List.length _hr
  rw [List.length_cons] at h₂
  unfold skipWs at h₂
  omega

/-- How many parts a key may have, and how deep arrays and tables may nest. -/
def maxNesting : Nat := 79

/-- Reads a key of no more parts than it may have. -/
def readKey (cs : List Char) : Option (List String × List Char) :=
  (readDotted cs).bind fun (parts, rest) =>
    if parts.length ≤ maxNesting then some (parts, rest) else none

/-! ## Numbers -/

/-- Reads digits, between which single low lines may stand. -/
def readDigitRun (isDigit : Char → Bool) : List Char → Option (List Char × List Char)
  | [] => none
  | c :: cs =>
    if !isDigit c then none
    else
      match cs with
      | '_' :: rest => (readDigitRun isDigit rest).map fun (digits, rest) => (c :: digits, rest)
      | d :: rest =>
        if isDigit d then
          (readDigitRun isDigit (d :: rest)).map fun (digits, rest) => (c :: digits, rest)
        else some ([c], d :: rest)
      | [] => some ([c], [])

/-- Takes a sign off the front; whether it was a minus. -/
def readSign : List Char → Bool × List Char
  | '-' :: rest => (true, rest)
  | '+' :: rest => (false, rest)
  | cs => (false, cs)

/-- Reads decimal digits with a sign; zeros in front are none, except a zero alone. -/
def readDecimal (cs : List Char) : Option ((Bool × List Char) × List Char) :=
  let (negative, cs) := readSign cs
  match cs with
  | '0' :: rest => some ((negative, ['0']), rest)
  | cs => (readDigitRun isDigit cs).map fun (digits, rest) => ((negative, digits), rest)

/-- An integer of 64 bits with a sign. -/
def integer? (n : Int) : Option Toml :=
  if -Nat.pow 2 63 ≤ n ∧ n < Nat.pow 2 63 then some (.integer n) else none

/-- The value of a digit in a base, if it is one. -/
def digitOf? (base : Nat) (c : Char) : Option Nat := (hexValue c).filter (· < base)

/-- Reads an integer in a base, from behind what says so. -/
def readBased (base : Nat) (cs : List Char) : Option (Toml × List Char) := do
  let (digits, rest) ← readDigitRun (fun c => (digitOf? base c).isSome) cs
  let n := digits.foldl (fun n c => n * base + (digitOf? base c).getD 0) 0
  return (← integer? n, rest)

/-- Reads an integer. -/
def readInteger (cs : List Char) : Option (Toml × List Char) :=
  match cs with
  | '0' :: 'x' :: rest => readBased 16 rest
  | '0' :: 'o' :: rest => readBased 8 rest
  | '0' :: 'b' :: rest => readBased 2 rest
  | cs => do
    let ((negative, digits), rest) ← readDecimal cs
    let n : Int := natOfDigits digits
    return (← integer? (if negative then -n else n), rest)

/-- Reads an exponent from behind its letter. -/
def readExponent (cs : List Char) : Option (Int × List Char) := do
  let (negative, cs) := readSign cs
  let (digits, rest) ← readDigitRun isDigit cs
  let n : Int := natOfDigits digits
  return (if negative then -n else n, rest)

/-- Reads an exponent with its letter; no letter is exponent zero. -/
def readExponentPart : List Char → Option (Int × List Char)
  | 'e' :: rest => readExponent rest
  | 'E' :: rest => readExponent rest
  | cs => some (0, cs)

/-- The number of digits that are scaled by a power of ten. A number that is too large is infinite
if it is negative, and else none. -/
def floatOf? (negative : Bool) (digits : List Char) (exponent : Int) : Option Toml :=
  match Binary64.ofDecimal (natOfDigits digits) exponent with
  | some x => some (.float (.finite (x.withSign negative)))
  | none => if negative then some (.float (.infinite true)) else none

/-- Reads a number with a fraction or an exponent or both. -/
def readFinite (cs : List Char) : Option (Toml × List Char) := do
  let ((negative, digits), rest) ← readDecimal cs
  match rest with
  | '.' :: rest =>
    let (fraction, rest) ← readDigitRun isDigit rest
    let (exponent, rest) ← readExponentPart rest
    return (← floatOf? negative (digits ++ fraction) (exponent - fraction.length), rest)
  | c :: _ =>
    if c = 'e' ∨ c = 'E' then
      let (exponent, rest) ← readExponentPart rest
      return (← floatOf? negative digits exponent, rest)
    else none
  | [] => none

/-- Reads a number that is not finite. -/
def readSpecial (cs : List Char) : Option (Toml × List Char) :=
  let (negative, cs) := readSign cs
  match cs with
  | 'i' :: 'n' :: 'f' :: rest => some (.float (.infinite negative), rest)
  | 'n' :: 'a' :: 'n' :: rest => some (.float .nan, rest)
  | _ => none

/-- Reads a truth value. -/
def readBoolean : List Char → Option (Toml × List Char)
  | 't' :: 'r' :: 'u' :: 'e' :: rest => some (.boolean true, rest)
  | 'f' :: 'a' :: 'l' :: 's' :: 'e' :: rest => some (.boolean false, rest)
  | _ => none

/-- Reads a value without brackets. -/
def readScalar (cs : List Char) : Option (Toml × List Char) :=
  (readString cs).map (fun (read, rest) => (.text (String.ofList read), rest))
    |>.or ((Moment.read cs).map fun (m, rest) => (.moment m, rest))
    |>.or (readFinite cs) |>.or (readSpecial cs) |>.or (readInteger cs) |>.or (readBoolean cs)

end CheckScript.Toml
