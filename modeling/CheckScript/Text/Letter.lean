/-!
# ASCII letters without regard to case
-/

namespace CheckScript.Text

/-- The lower-case variant of an ASCII letter. -/
def lowerAscii (c : Char) : Char := if c.isUpper then Char.ofNat (c.toNat + 0x20) else c

/-- What follows a word, which is in lower case, at the front of a text in any case. -/
def stripWord? : List Char → List Char → Option (List Char)
  | [], cs => some cs
  | _ :: _, [] => none
  | w :: ws, c :: cs => if w = lowerAscii c then stripWord? ws cs else none

end CheckScript.Text
