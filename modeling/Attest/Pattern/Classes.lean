import Attest.Pattern.Syntax
import Attest.Unicode.Age
import Attest.Unicode.Break
import Attest.Unicode.CaseMap
import Attest.Unicode.ScriptExtension

/-!
The sets of characters that classes of a pattern stand for.

Names of properties are compared without regard to case, blanks, hyphens and underscores. A bare
name is looked for among the binary properties, then the general categories, then the scripts.
-/

namespace Attest.Pattern

open Unicode (CodeSet)

/-- The set of a class with a name between `[:` and `:]`. -/
def AsciiClass.set : AsciiClass → CodeSet
  | .alnum => .ofTable "30-39 41-5A 61-7A"
  | .alpha => .ofTable "41-5A 61-7A"
  | .ascii => .ofTable "0-7F"
  | .blank => .ofTable "9 20"
  | .cntrl => .ofTable "0-1F 7F"
  | .digit => .ofTable "30-39"
  | .graph => .ofTable "21-7E"
  | .lower => .ofTable "61-7A"
  | .print => .ofTable "20-7E"
  | .punct => .ofTable "21-2F 3A-40 5B-60 7B-7E"
  | .space => .ofTable "9-D 20"
  | .upper => .ofTable "41-5A"
  | .word => .ofTable "30-39 41-5A 5F 61-7A"
  | .xdigit => .ofTable "30-39 41-46 61-66"

/-- The characters of words: letters, marks, decimal digits, connectors and joiners. -/
def wordSet : CodeSet :=
  (Unicode.alphabetic.union (Unicode.inCategories ["Mn", "Mc", "Me", "Nd", "Pc"])).union
    (Unicode.property "Join_Control")

/-- The set of a class with a letter, among all characters or among those of ASCII. -/
def LetterClass.set (unicode : Bool) : LetterClass → CodeSet
  | .digit => if unicode then Unicode.inCategories ["Nd"] else AsciiClass.digit.set
  | .space => if unicode then Unicode.whiteSpace else AsciiClass.space.set
  | .word => if unicode then wordSet else AsciiClass.word.set

/-! ### Properties by name -/

/-- Each general category and each group of them: its names, and the categories it takes in. -/
def categoryNames : List (List String × List String) := [
  (["Lu", "Uppercase_Letter"], ["Lu"]), (["Ll", "Lowercase_Letter"], ["Ll"]),
  (["Lt", "Titlecase_Letter"], ["Lt"]), (["Lm", "Modifier_Letter"], ["Lm"]),
  (["Lo", "Other_Letter"], ["Lo"]), (["Mn", "Nonspacing_Mark"], ["Mn"]),
  (["Mc", "Spacing_Mark"], ["Mc"]), (["Me", "Enclosing_Mark"], ["Me"]),
  (["Nd", "Decimal_Number", "digit"], ["Nd"]), (["Nl", "Letter_Number"], ["Nl"]),
  (["No", "Other_Number"], ["No"]), (["Pc", "Connector_Punctuation"], ["Pc"]),
  (["Pd", "Dash_Punctuation"], ["Pd"]), (["Ps", "Open_Punctuation"], ["Ps"]),
  (["Pe", "Close_Punctuation"], ["Pe"]), (["Pi", "Initial_Punctuation"], ["Pi"]),
  (["Pf", "Final_Punctuation"], ["Pf"]), (["Po", "Other_Punctuation"], ["Po"]),
  (["Sm", "Math_Symbol"], ["Sm"]), (["Sc", "Currency_Symbol"], ["Sc"]),
  (["Sk", "Modifier_Symbol"], ["Sk"]), (["So", "Other_Symbol"], ["So"]),
  (["Zs", "Space_Separator"], ["Zs"]), (["Zl", "Line_Separator"], ["Zl"]),
  (["Zp", "Paragraph_Separator"], ["Zp"]), (["Cc", "Control", "cntrl"], ["Cc"]),
  (["Cf", "Format"], ["Cf"]), (["Co", "Private_Use"], ["Co"]),
  (["L", "Letter"], ["Lu", "Ll", "Lt", "Lm", "Lo"]), (["LC", "Cased_Letter"], ["Lu", "Ll", "Lt"]),
  (["M", "Mark", "Combining_Mark"], ["Mn", "Mc", "Me"]), (["N", "Number"], ["Nd", "Nl", "No"]),
  (["P", "Punctuation", "punct"], ["Pc", "Pd", "Ps", "Pe", "Pi", "Pf", "Po"]),
  (["S", "Symbol"], ["Sm", "Sc", "Sk", "So"]), (["Z", "Separator"], ["Zs", "Zl", "Zp"])]

/-- Drops what does not count in a name: case, a prefix `is`, blanks, hyphens and underscores, and
all that is not ASCII. -/
def normalizeName (name : String) : String :=
  let cs := name.toList
  let isPrefixed := (cs.take 2).map Char.toLower = ['i', 's']
  let kept (cs : List Char) : List Char :=
    (cs.filter fun c => c.toNat < 0x80 && c ≠ ' ' && c ≠ '_' && c ≠ '-').map Char.toLower
  let short := kept (if isPrefixed then cs.drop 2 else cs)
  String.ofList (if isPrefixed && short = ['c'] then ['i', 's', 'c'] else short)

/-- Whether the normalized name is one of the names. -/
def isNamed (normalized : String) (names : List String) : Bool :=
  names.any fun n => normalizeName n = normalized

/-- Whether the name is that of a category or script that has no characters: surrogates are code
points only. -/
def isVacant (normalized : String) : Bool :=
  isNamed normalized
    ["Cs", "Surrogate", "Zzzz", "Unknown", "Hrkt", "Katakana_Or_Hiragana"]

/-- The set of a general category, or of a group of them. -/
def categorySet? (normalized : String) : Option CodeSet :=
  if normalized = "any" then some .all
  else if normalized = "ascii" then some (.ofTable "0-7F")
  else if normalized = "assigned" then some Unicode.assigned
  else if normalized = "cn" || normalized = "unassigned" then some Unicode.unassigned
  else if normalized = "c" || normalized = "other" then
    some ((Unicode.inCategories ["Cc", "Cf", "Co"]).union Unicode.unassigned)
  else (categoryNames.find? fun row => isNamed normalized row.1).map fun row =>
    Unicode.inCategories row.2

/-- The row of a script. -/
def scriptRow? (normalized : String) : Option (List String × String) :=
  Unicode.scriptTable.find? fun row => isNamed normalized row.1

def scriptSet? (normalized : String) : Option CodeSet :=
  (scriptRow? normalized).map fun row => .ofTable row.2

/-- The characters that are used in a script. -/
def extensionSet? (normalized : String) : Option CodeSet :=
  (scriptRow? normalized).map fun row => Unicode.usedInScript row.1 (.ofTable row.2)

def binarySet? (normalized : String) : Option CodeSet :=
  (Unicode.propertyTable.find? fun row => isNamed normalized row.1).map (·.2)

/-- Other properties that have more values than yes and no; none of theirs can be asked for. -/
def valuedNames : List String := [
  "bc", "Bidi_Class", "bmg", "Bidi_Mirroring_Glyph", "bpb", "Bidi_Paired_Bracket", "bpt",
  "Bidi_Paired_Bracket_Type", "blk", "Block", "ccc", "Canonical_Combining_Class", "cf",
  "Case_Folding", "cwkcf", "Changes_When_NFKC_Casefolded", "ce", "Composition_Exclusion", "dm",
  "Decomposition_Mapping", "dt", "Decomposition_Type", "ea", "East_Asian_Width", "equideo",
  "Equivalent_Unified_Ideograph", "xonfc", "Expands_On_NFC", "xonfd", "Expands_On_NFD", "xonfkc",
  "Expands_On_NFKC", "xonfkd", "Expands_On_NFKD", "fcnfkc", "FC_NFKC_Closure", "compex",
  "Full_Composition_Exclusion", "hst", "Hangul_Syllable_Type", "incb", "Indic_Conjunct_Break",
  "inpc", "Indic_Positional_Category", "insc", "Indic_Syllabic_Category", "isc", "ISO_Comment",
  "jsn", "Jamo_Short_Name", "jg", "Joining_Group", "jt", "Joining_Type", "cjkaccountingnumeric",
  "kAccountingNumeric", "cjkcompatibilityvariant", "kCompatibilityVariant", "kEH_Cat", "kEH_Desc",
  "kEH_HG", "kEH_IFAO", "kEH_JSesh", "kEH_NoMirror", "kEH_NoRotate", "cjkiicore", "kIICore",
  "cjkirggsource", "kIRG_GSource", "cjkirghsource", "kIRG_HSource", "cjkirgjsource", "kIRG_JSource",
  "cjkirgkpsource", "kIRG_KPSource", "cjkirgksource", "kIRG_KSource", "cjkirgmsource",
  "kIRG_MSource", "cjkirgssource", "kIRG_SSource", "cjkirgtsource", "kIRG_TSource",
  "cjkirguksource", "kIRG_UKSource", "cjkirgusource", "kIRG_USource", "cjkirgvsource",
  "kIRG_VSource", "cjkothernumeric", "kOtherNumeric", "cjkprimarynumeric", "kPrimaryNumeric",
  "cjkrsunicode", "unicoderadicalstroke", "urs", "kRSUnicode", "lb", "Line_Break", "lc",
  "Lowercase_Mapping", "na", "Name", "Name_Alias", "nfcqc", "NFC_Quick_Check", "nfdqc",
  "NFD_Quick_Check", "nfkccf", "NFKC_Casefold", "nfkcqc", "NFKC_Quick_Check", "nfkcscf",
  "NFKC_Simple_Casefold", "nfkdqc", "NFKD_Quick_Check", "nt", "Numeric_Type", "nv", "Numeric_Value",
  "scf", "sfc", "Simple_Case_Folding", "slc", "Simple_Lowercase_Mapping", "stc",
  "Simple_Titlecase_Mapping", "suc", "Simple_Uppercase_Mapping", "tc", "Titlecase_Mapping", "na1",
  "Unicode_1_Name", "uc", "Uppercase_Mapping", "vo", "Vertical_Orientation"]

/-- The set of a value in a table of values. -/
def valueIn? (table : List (List String × CodeSet)) (normalized : String) : Option CodeSet :=
  (table.find? fun row => isNamed normalized row.1).map (·.2)

/-- The properties whose values can be asked for: their names, and the set of a value. A version of
the standard has the characters of all versions before it. -/
def valuedProperties : List (List String × (String → Option CodeSet)) := [
  (["gc", "General_Category"], categorySet?), (["sc", "Script"], scriptSet?),
  (["scx", "Script_Extensions"], extensionSet?),
  (["age", "Age"], fun value => Unicode.inVersion? fun row => isNamed value row.1),
  (["GCB", "Grapheme_Cluster_Break"], valueIn? Unicode.graphemeBreak),
  (["WB", "Word_Break"], valueIn? Unicode.wordBreak),
  (["SB", "Sentence_Break"], valueIn? Unicode.sentenceBreak)]

/-- The set of a property's value. -/
def valueSet (name value : String) : Except Cause CodeSet :=
  match valuedProperties.find? fun row => isNamed name row.1 with
  | some (_, set?) => (set? value).elim (.error .propertyValueNotFound) .ok
  | none =>
    .error <| if isNamed name valuedNames || (binarySet? name).isSome then .propertyValueNotFound
      else .propertyNotFound

/-- The set that a query asks for. -/
def PropertyQuery.set : PropertyQuery → Except Cause CodeSet
  | .named name =>
    let normalized := normalizeName name
    let isCategory := normalized = "cf" || normalized = "sc" || normalized = "lc"
    let binary := if isCategory then none else binarySet? normalized
    match (binary.or (categorySet? normalized)).or (scriptSet? normalized) with
    | some set => .ok set
    | none =>
      .error (if isVacant normalized then .propertyValueNotFound else .propertyNotFound)
  | .valued name value _ => valueSet (normalizeName name) (normalizeName value)

/-- Whether the query asks for the characters that lack the value. -/
def PropertyQuery.isNegated : PropertyQuery → Bool
  | .named _ => false
  | .valued _ _ negated => negated

end Attest.Pattern
