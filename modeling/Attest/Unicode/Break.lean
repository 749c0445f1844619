import Attest.Unicode.Property
import Attest.Unicode.Script

/-!
The parts that characters play in the division of texts into characters as they are perceived, into
words and into sentences (version 16.0 of the Unicode Standard).

Each table lists the values of one property under their names. Most values follow from the category
and from the binary properties of a character. A character in no row plays no part.
-/

namespace Attest.Unicode

/-- The code points of a script, given by its longer name. -/
def inScript (name : String) : CodeSet :=
  match scriptTable.find? fun row => row.1.contains name with
  | some row => .ofTable row.2
  | none => .empty

/-- Every character that combines with the one before it. -/
def combining : CodeSet :=
  graphemeExtend.union (inCategories ["Mc"])

/-- Format characters that play no other part. -/
def formats : CodeSet :=
  (inCategories ["Cf"]).diff
    (.unions [.ofTable "200B-200D E0020-E007F", property "Prepended_Concatenation_Mark"])

/-! ### Characters -/

/-- Syllables of Hangul that end in a vowel: each is followed by 27 that end in a consonant. -/
def openSyllables : CodeSet := .ofRanges <| (List.range 399).map fun i =>
  (0xAC00 + 28 * i, 0xAC00 + 28 * i)

def closedSyllables : CodeSet := (CodeSet.range 0xAC00 0xD7A3).diff openSyllables

/-- The parts in characters as they are perceived. -/
def graphemeBreak : List (List String × CodeSet) := [
  (["CN", "Control"],
    (CodeSet.unions [inCategories ["Zl", "Zp", "Cc", "Cf"], unassigned.inter defaultIgnorable]).diff
      (.unions [.ofTable "A D 200C-200D E0020-E007F", prependedMark])),
  (["CR"], .ofTable "D"), (["LF"], .ofTable "A"),
  (["EX", "Extend"], graphemeExtend.union (property "Emoji_Modifier")),
  (["L"], .ofTable "1100-115F A960-A97C"),
  (["LV"], openSyllables), (["LVT"], closedSyllables),
  (["PP", "Prepend"], prependedMark.union (.ofTable
    "D4E 111C2-111C3 113D1 1193F 11941 11A3A 11A84-11A89 11D46 11F02")),
  (["RI", "Regional_Indicator"], property "Regional_Indicator"),
  (["SM", "SpacingMark"],
    ((inCategories ["Mc"]).diff (graphemeExtend.union (.ofTable
      "102B-102C 1038 1062-1064 1067-106D 1083 1087-108C 108F 109A-109C 1A61 1A63-1A64 AA7B AA7D
      11720-11721"))).union
      (.ofTable "E33 EB3")),
  (["T"], .ofTable "11A8-11FF D7CB-D7FB"),
  (["V"], .ofTable "1160-11A7 D7B0-D7C6 16D63 16D67-16D6A"),
  (["ZWJ"], .ofTable "200D")]

/-! ### Words -/

/-- Kana of one kind, and the signs that stand among them. -/
def katakana : CodeSet :=
  (inScript "Katakana").union (.ofTable "3031-3035 309B-309C 30A0 30FC FF70")

def hebrewLetters : CodeSet := (inScript "Hebrew").inter (inCategories ["Lo"])

/-- Letters of scripts that do not write a blank between words. -/
def unspacedLetters : CodeSet :=
  .unions ([katakana, property "Ideographic", .ofTable "11700-1171A 11740-11746"] ++
    ["Hiragana", "Thai", "Lao", "Myanmar", "Khmer", "Tai_Le", "New_Tai_Lue", "Tai_Tham",
      "Tai_Viet"].map inScript)

/-- Digits, and signs that go with numbers. -/
def numberSigns : CodeSet :=
  (inCategories ["Nd"]).union
    (.ofTable "600-605 66B 6DD 890-891 8E2 19DA 110BD 110CD")

/-- The parts in words. -/
def wordBreak : List (List String × CodeSet) := [
  (["LE", "ALetter"],
    (alphabetic.diff (.unions [unspacedLetters, combining, hebrewLetters])).union (.ofTable
      "2C2-2C5 2D2-2D7 2DE-2DF 2E5-2EB 2ED 2EF-2FF 55A-55C 55E 58A 5F3 70F A708-A716 A720-A721
      A789-A78A AB5B")),
  (["CR"], .ofTable "D"), (["LF"], .ofTable "A"), (["NL", "Newline"], .ofTable "B-C 85 2028-2029"),
  (["DQ", "Double_Quote"], .ofTable "22"), (["SQ", "Single_Quote"], .ofTable "27"),
  (["Extend"], combining.union (property "Emoji_Modifier")),
  (["FO", "Format"], formats), (["ZWJ"], .ofTable "200D"),
  (["EX", "ExtendNumLet"], (inCategories ["Pc"]).union (.ofTable "202F")),
  (["HL", "Hebrew_Letter"], hebrewLetters), (["KA", "Katakana"], katakana),
  (["ML", "MidLetter"], .ofTable "3A B7 387 55F 5F4 2027 FE13 FE55 FF1A"),
  (["MN", "MidNum"], .ofTable "2C 3B 37E 589 60C-60D 66C 7F8 2044 FE50 FE54 FF0C FF1B"),
  (["MB", "MidNumLet"], .ofTable "2E 2018-2019 2024 FE52 FF07 FF0E"),
  (["NU", "Numeric"], numberSigns),
  (["RI", "Regional_Indicator"], property "Regional_Indicator"),
  (["WSegSpace"], (inCategories ["Zs"]).diff (.ofTable "A0 2007 202F"))]

/-! ### Sentences -/

/-- Small letters, but for those of Georgian, which has capitals for whole words only. -/
def smallLetters : CodeSet :=
  lowercase.diff (graphemeExtend.union (.ofTable "10D0-10FA 10FD-10FF"))

def capitalLetters : CodeSet :=
  (uppercase.union (inCategories ["Lt"])).diff (.ofTable "1C90-1CBA 1CBD-1CBF")

/-- The parts in sentences. -/
def sentenceBreak : List (List String × CodeSet) := [
  (["AT", "ATerm"], .ofTable "2E 2024 FE52 FF0E"),
  (["CL", "Close"],
    (CodeSet.unions [inCategories ["Ps", "Pe", "Pi", "Pf"], property "Quotation_Mark",
      .ofTable "275B-2760 2E00-2E01 2E06-2E08 2E0B 1F676-1F678"]).diff
      (.ofTable "FF02 FF07")),
  (["CR"], .ofTable "D"), (["LF"], .ofTable "A"),
  (["EX", "Extend"], combining.union (.ofTable "200D")),
  (["FO", "Format"], formats.union (.ofTable "70F 200B")),
  (["LE", "OLetter"],
    (alphabetic.diff (.unions [smallLetters, capitalLetters, combining])).union (.ofTable "5F3")),
  (["LO", "Lower"], smallLetters),
  (["NU", "Numeric"], numberSigns.union (.ofTable "66C")),
  (["SC", "SContinue"], .ofTable
    "2C-2D 3A-3B 37E 55D 60C-60D 7F8 1802 1808 2013-2014 3001 FE10-FE11 FE13-FE14 FE31-FE32
    FE50-FE51 FE54-FE55 FE58 FE63 FF0C-FF0D FF1A-FF1B FF64"),
  (["SE", "Sep"], .ofTable "85 2028-2029"),
  (["SP", "Sp"], whiteSpace.diff (.ofTable "A D 85 2028-2029")),
  (["ST", "STerm"], (property "Sentence_Terminal").diff (.ofTable "2E 2024 FE52 FF0E")),
  (["UP", "Upper"], capitalLetters)]

end Attest.Unicode
