import CheckScript.Unicode.Property
import CheckScript.Unicode.Script

/-!
# Where texts are divided

The standard divides texts into what readers take for characters, into words and into sentences, and
gives every character a class for each of the three. Most classes are made of categories and
properties. `GraphemeBreak.find?`, `WordBreak.find?` and `SentenceBreak.find?` look a class up under
its short or long name.
-/

namespace CheckScript.Unicode

open Category Property

/-- The set of the first entry that has a name. -/
def findNamed? (classes : List (List String × CharSet)) (name : String) : Option CharSet :=
  (classes.find? fun entry => entry.1.contains name).map (·.2)

/-- A carriage return. -/
def carriageReturn : CharSet := .single '\r'

/-- A newline. -/
def lineFeed : CharSet := .single '\n'

/-- The character that joins what stands around it, and the one that does not. -/
def zeroWidthJoiner : CharSet := .range 0x200D 0x200D

@[inherit_doc zeroWidthJoiner]
def zeroWidthNonJoiner : CharSet := .range 0x200C 0x200C

/-! ## Characters as readers take them -/

namespace GraphemeBreak

/-- Characters that stay with the one before them. -/
def extend : CharSet := .union graphemeExtend emojiModifier

/-- Characters that stand alone. -/
def control : CharSet :=
  (CharSet.unions [lineSeparator, paragraphSeparator, Category.control, format,
      unassigned.inter defaultIgnorable]).diff
    (.unions [carriageReturn, lineFeed, zeroWidthNonJoiner, zeroWidthJoiner,
      prependedConcatenationMark, extend])

/-- Characters that stay with the one after them. -/
def prepend : CharSet :=
  .union prependedConcatenationMark (.ofText
    "D4E 111C2-111C3 113D1 1193F 11941 11A3A 11A84-11A89 11D46 11F02")

/-- Marks with a width that stay with the character before them. -/
def spacingMark : CharSet :=
  (Category.spacingMark.union (.ofText "E33 EB3")).diff (.union extend (.ofText
    "102B-102C 1038 1062-1064 1067-106D 1083 1087-108C 108F 109A-109C 1A61 1A63-1A64 AA7B AA7D
    11720-11721"))

/-- Consonants at the start of a syllable. -/
def leading : CharSet := .ofText "1100-115F A960-A97C"

/-- Vowels. -/
def vowel : CharSet := .ofText "1160-11A7 D7B0-D7C6 16D63 16D67-16D6A"

/-- Consonants at the end of a syllable. -/
def trailing : CharSet := .ofText "11A8-11FF D7CB-D7FB"

/-- Syllables: from the first one on, every 28th has no consonant at its end. -/
def openSyllable : CharSet :=
  .unions ((List.range 399).map fun i => .range (0xAC00 + 28 * i) (0xAC00 + 28 * i))

/-- Syllables with a consonant at their end. -/
def closedSyllable : CharSet := (CharSet.range 0xAC00 0xD7A3).diff openSyllable

/-- The classes with their names, in lower case and without separators. -/
def named : List (List String × CharSet) := [
  (["cr"], carriageReturn), (["lf"], lineFeed), (["cn", "control"], control),
  (["ex", "extend"], extend), (["zwj"], zeroWidthJoiner), (["pp", "prepend"], prepend),
  (["sm", "spacingmark"], spacingMark), (["ri", "regionalindicator"], regionalIndicator),
  (["l"], leading), (["v"], vowel), (["t"], trailing), (["lv"], openSyllable),
  (["lvt"], closedSyllable)]

/-- The class of a name. -/
def find? (name : String) : Option CharSet := findNamed? named name

end GraphemeBreak

/-! ## Words -/

namespace WordBreak

/-- Characters that stay with the one before them. -/
def extend : CharSet :=
  (CharSet.unions [graphemeExtend, Category.spacingMark, emojiModifier]).diff zeroWidthJoiner

/-- Characters that are passed over. -/
def format : CharSet :=
  Category.format.diff
    (.unions [.range 0x200B 0x200D, prependedConcatenationMark, extend])

/-- Signs that belong to the number behind them. -/
def numberSign : CharSet := prependedConcatenationMark.diff (.range 0x70F 0x70F)

/-- Digits and what is written like them. -/
def numeric : CharSet := .unions [decimalNumber, numberSign, .ofText "66B 19DA"]

/-- Syllables of Katakana. -/
def katakana : CharSet := .ofText
    "3031-3035 309B-309C 30A0-30FA 30FC-30FF 31F0-31FF 32D0-32FE 3300-3357 FF66-FF9D 1AFF0-1AFF3
    1AFF5-1AFFB 1AFFD-1AFFE 1B000 1B120-1B122 1B155 1B164-1B167"

/-- Letters of Hebrew, between which quotation marks can stand. -/
def hebrewLetter : CharSet := .ofText
    "5D0-5EA 5EF-5F2 FB1D FB1F-FB28 FB2A-FB36 FB38-FB3C FB3E FB40-FB41 FB43-FB44 FB46-FB4F"

/-- Letters of scripts in which words are not kept apart. -/
def unspacedLetter : CharSet := .ofText
    "E01-E30 E32-E33 E40-E46 E81-E82 E84 E86-E8A E8C-EA3 EA5 EA7-EB0 EB2-EB3 EBD EC0-EC4 EC6
    EDC-EDF 1000-102A 103F 1050-1055 105A-105D 1061 1065-1066 106E-1070 1075-1081 108E 1780-17B3
    17D7 17DC 1950-196D 1970-1974 1980-19AB 19B0-19C9 1A20-1A54 1AA7 A9E0-A9E4 A9E6-A9EF
    A9FA-A9FE AA60-AA76 AA7A AA7E-AAAF AAB1 AAB5-AAB6 AAB9-AABD AAC0 AAC2 AADB-AADD 11700-1171A
    11740-11746"

/-- Letters of words. -/
def letter : CharSet :=
  (alphabetic.union (.ofText
    "B8 2C2-2C5 2D2-2D7 2DE-2DF 2E5-2EB 2ED 2EF-2FF 55A-55C 55E 58A 5F3 70F A708-A716 A720-A721
    A789-A78A AB5B")).diff
    (.unions [ideographic, katakana, (Script.find? "hira").getD .empty, extend, hebrewLetter,
      unspacedLetter])

/-- Marks that stand between two letters. -/
def midLetter : CharSet := .ofText "3A B7 387 55F 5F4 2027 FE13 FE55 FF1A"

/-- Marks that stand between two digits. -/
def midNumber : CharSet := .ofText
    "2C 3B 37E 589 60C-60D 66C 7F8 2044 FE10 FE14 FE50 FE54 FF0C FF1B"

/-- Marks that stand between two letters or two digits. -/
def midBoth : CharSet := .ofText "2E 2018-2019 2024 FE52 FF07 FF0E"

/-- Lines that join parts of a word. -/
def connector : CharSet := .ofText
    "5F 202F 203F-2040 2054 FE33-FE34 FE4D-FE4F FF3F"

/-- Ends of lines other than a newline. -/
def newline : CharSet := .ofText "B-C 85 2028-2029"

/-- Spaces that stay together. -/
def space : CharSet := .ofText "20 1680 2000-2006 2008-200A 205F 3000"

/-- The classes with their names, in lower case and without separators. -/
def named : List (List String × CharSet) := [
  (["cr"], carriageReturn), (["lf"], lineFeed), (["nl", "newline"], newline),
  (["extend"], extend), (["zwj"], zeroWidthJoiner), (["fo", "format"], format),
  (["ka", "katakana"], katakana), (["hl", "hebrewletter"], hebrewLetter),
  (["le", "aletter"], letter), (["sq", "singlequote"], .single '\''),
  (["dq", "doublequote"], .single '"'), (["mb", "midnumlet"], midBoth),
  (["ml", "midletter"], midLetter), (["mn", "midnum"], midNumber), (["nu", "numeric"], numeric),
  (["ex", "extendnumlet"], connector), (["ri", "regionalindicator"], regionalIndicator),
  (["wsegspace"], space)]

/-- The class of a name. -/
def find? (name : String) : Option CharSet := findNamed? named name

end WordBreak

/-! ## Sentences -/

namespace SentenceBreak

/-- Characters that stay with the one before them. -/
def extend : CharSet := .unions [graphemeExtend, Category.spacingMark, zeroWidthJoiner]

/-- Ends of paragraphs. -/
def paragraphEnd : CharSet := .ofText "85 2028-2029"

/-- Digits and what is written like them. -/
def numeric : CharSet := WordBreak.numeric.union (.ofText "66C")

/-- Characters that are passed over. -/
def format : CharSet :=
  Category.format.diff (.unions [.range 0x200C 0x200D, WordBreak.numberSign, extend])

/-- Spaces. -/
def space : CharSet := whiteSpace.diff (.unions [paragraphEnd, carriageReturn, lineFeed])

/-- Lower-case letters. -/
def lower : CharSet := lowercase.diff (.union graphemeExtend (.ofText "10D0-10FA 10FD-10FF"))

/-- Upper-case letters. -/
def upper : CharSet := (titlecaseLetter.union uppercase).diff (.ofText "1C90-1CBA 1CBD-1CBF")

/-- Other letters. -/
def letter : CharSet :=
  (alphabetic.union (.ofText "5F3")).diff (.unions [lower, upper, extend])

/-- Full stops, which need not end a sentence. -/
def fullStop : CharSet := .ofText "2E 2024 FE52 FF0E"

/-- Marks that end a sentence. -/
def terminal : CharSet := sentenceTerminal.diff fullStop

/-- Marks behind which a sentence goes on. -/
def continuing : CharSet := .ofText
    "2C-2D 3A-3B 37E 55D 60C-60D 7F8 1802 1808 2013-2014 3001 FE10-FE11 FE13-FE14 FE31-FE32
    FE50-FE51 FE54-FE55 FE58 FE63 FF0C-FF0D FF1A-FF1B FF64"

/-- Brackets and quotation marks. -/
def closing : CharSet :=
  .unions [openPunctuation, closePunctuation, initialPunctuation, finalPunctuation,
    .ofText "22 27 275B-2760 2E00-2E01 2E06-2E08 2E0B 1F676-1F678"]

/-- The classes with their names, in lower case and without separators. -/
def named : List (List String × CharSet) := [
  (["cr"], carriageReturn), (["lf"], lineFeed), (["se", "sep"], paragraphEnd),
  (["ex", "extend"], extend), (["fo", "format"], format), (["sp"], space),
  (["lo", "lower"], lower), (["up", "upper"], upper), (["le", "oletter"], letter),
  (["nu", "numeric"], numeric), (["at", "aterm"], fullStop), (["st", "sterm"], terminal),
  (["sc", "scontinue"], continuing), (["cl", "close"], closing)]

/-- The class of a name. -/
def find? (name : String) : Option CharSet := findNamed? named name

end SentenceBreak

end CheckScript.Unicode
