import CheckScript.Text.Digit
import CheckScript.Unicode.Recent

/-!
# Texts made visible

A text between quotation marks of which every character can be seen: quotation marks and reverse
solidi are escaped, controls that have a letter are written with it, and any other character that
has no shape of its own is written as its code point, as in `\u{200b}`. The space is the one blank
that stays.
-/

namespace CheckScript.Text

open Unicode

/-- Characters that cannot be told apart from nothing, or from the character before them. The two
voicing marks of half the width have a shape of their own. -/
def invisible : CharSet :=
  (CharSet.unions [Recent.other, Category.separator, Recent.graphemeExtend,
      Property.defaultIgnorable]).diff
    (.union (.single ' ') (.ofText "FF9E-FF9F"))

/-- The lower-case hexadecimal digits of a number. -/
def hexDigits (n : Nat) : List Char := Nat.toDigits 16 n

/-- A character as it stands between the quotation marks. -/
def showChar (c : Char) : List Char :=
  match c with
  | '"' => ['\\', '"']
  | '\\' => ['\\', '\\']
  | '\n' => ['\\', 'n']
  | '\r' => ['\\', 'r']
  | '\t' => ['\\', 't']
  | '\x00' => ['\\', '0']
  | c =>
    if invisible.mem c then ['\\', 'u', '\x7b'] ++ hexDigits c.toNat ++ ['\x7d'] else [c]

/-- A text between quotation marks, all of it visible. -/
def showQuoted (s : String) : List Char := '"' :: s.toList.flatMap showChar ++ ['"']

end CheckScript.Text
