import CheckScript.Pattern.Expr
import CheckScript.Text.Letter
import CheckScript.Unicode.Age
import CheckScript.Unicode.Break
import CheckScript.Unicode.CaseFold

/-!
# Named classes of characters

The sets that the names in a pattern stand for: shorthands, ASCII classes and properties. A name of
a property is read without regard to case, blanks, hyphens, low lines, and an `is` in front.
-/

namespace CheckScript.Pattern

open Text Unicode

/-! ## Shorthands -/

/-- The characters of words in all scripts. -/
def wordChars : CharSet :=
  .unions [Property.alphabetic, Category.mark, Category.decimalNumber,
    Category.connectorPunctuation, Property.joinControl]

/-- The digits of ASCII. -/
def asciiDigits : CharSet := .ofText "30-39"

/-- The blanks of ASCII. -/
def asciiSpaces : CharSet := .ofText "9-D 20"

/-- The characters of words in ASCII. -/
def asciiWordChars : CharSet := .ofText "30-39 41-5A 5F 61-7A"

/-- The set of a shorthand in all scripts. -/
def Shorthand.set : Shorthand → CharSet
  | .digit => Category.decimalNumber
  | .space => Property.whiteSpace
  | .word => wordChars

/-- The set of a shorthand in ASCII. -/
def Shorthand.asciiSet : Shorthand → CharSet
  | .digit => asciiDigits
  | .space => asciiSpaces
  | .word => asciiWordChars

/-! ## ASCII classes -/

/-- The ASCII classes with their names. -/
def asciiClasses : List (String × CharSet) := [
  ("alnum", .ofText "30-39 41-5A 61-7A"),
  ("alpha", .ofText "41-5A 61-7A"),
  ("ascii", .ofText "0-7F"),
  ("blank", .ofText "9 20"),
  ("cntrl", .ofText "0-1F 7F"),
  ("digit", asciiDigits),
  ("graph", .ofText "21-7E"),
  ("lower", .ofText "61-7A"),
  ("print", .ofText "20-7E"),
  ("punct", .ofText "21-2F 3A-40 5B-60 7B-7E"),
  ("space", asciiSpaces),
  ("upper", .ofText "41-5A"),
  ("word", asciiWordChars),
  ("xdigit", .ofText "30-39 41-46 61-66")]

/-- The ASCII class of a name. -/
def asciiClass (name : List Char) : CharSet :=
  ((asciiClasses.find? (·.1.toList == name)).map (·.2)).getD .empty

/-! ## Properties -/

/-- Whether a name has an `is` in front that does not count. -/
def hasIs : List Char → Bool
  | a :: b :: _ => lowerAscii a == 'i' && lowerAscii b == 's'
  | _ => false

/-- The name without what does not count. -/
def plainName (name : List Char) : String :=
  let counted := ((if hasIs name then name.drop 2 else name).filter fun c =>
    c != ' ' && c != '_' && c != '-' && c.toNat < 0x80).map lowerAscii
  String.ofList (if hasIs name && counted == ['c'] then "isc".toList else counted)

/-- Names that mean a category though a property has them too. -/
def categoryFirst : List String := ["cf", "sc", "lc"]

/-- The characters with the property, category or script of a name. -/
def namedSet? (name : String) : Option CharSet :=
  (if categoryFirst.contains name then none else Property.find? name)
    |>.or (Category.find? name) |>.or (Script.find? name)

/-- The characters that a query is about. -/
def PropertyQuery.set? : PropertyQuery → Option CharSet
  | .named name => namedSet? (plainName name)
  | .valued name value =>
    match plainName name with
    | "gc" | "generalcategory" => Category.find? (plainName value)
    | "sc" | "script" => Script.find? (plainName value)
    | "scx" | "scriptextensions" => Script.findExtended? (plainName value)
    | "age" => Age.find? (plainName value)
    | "gcb" | "graphemeclusterbreak" => GraphemeBreak.find? (plainName value)
    | "wb" | "wordbreak" => WordBreak.find? (plainName value)
    | "sb" | "sentencebreak" => SentenceBreak.find? (plainName value)
    | _ => none

/-! ## Case -/

/-- The set with the variants in case of its ASCII letters, themselves of ASCII. -/
def closeAsciiCase (set : CharSet) : CharSet :=
  let ascii := CharSet.range 0 0x7F
  set.union ((set.inter ascii).closeCase.inter ascii)

end CheckScript.Pattern
