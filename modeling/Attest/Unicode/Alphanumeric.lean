import Attest.Unicode.Property

/-!
Letters and numerals, as they may stand in a name.

The tables of categories and properties are those of version 16.0 of the Unicode Standard. What
version 17.0 added to the letters and numerals counts here too.
-/

namespace Attest.Unicode

/-- The letters: what is alphabetic. -/
def letters : CodeSet := alphabetic.union <| .ofTable
  "88F C5C CDC A7CE-A7CF A7D2 A7D4 A7F1 10940-10959 10EC5-10EC7 10EFA-10EFB 11B60-11B67
  11DB0-11DDB 16EA0-16EB8 16EBB-16ED3 16FF2-16FF6 187F8-187FF 18D09-18D1E 18D80-18DF2 1E6C0-1E6DE
  1E6E0-1E6F5 1E6FE-1E6FF 2B73A-2B73F 2CEA2-2CEAD 323B0-33479"

/-- The numerals: digits, letters that are numbers, and other numbers. -/
def numerals : CodeSet :=
  (inCategories ["Nd", "Nl", "No"]).union (.ofTable "11DE0-11DE9 16FF4-16FF6")

def isLetter (c : Char) : Bool := letters.contains c

def isAlphanumeric (c : Char) : Bool := isLetter c || numerals.contains c

end Attest.Unicode
