import Attest.Backtrack.Search
import Attest.Schema.Draft
import Attest.Text.Moment
import Attest.Unicode.Alphanumeric
import Attest.Unicode.WhiteSpace
import Attest.Url.Reader

/-!
Formats: kinds of texts that a schema can ask for by name.
-/

namespace Attest.Schema

open Backtrack (Search)

/-! ### Patterns of schemas -/

/-- The classes with a letter, written out: in schemas they are those of ASCII, but for some blanks.
-/
def spelledClass? : Char → Option String
  | 'd' => some "[0-9]"
  | 'D' => some "[^0-9]"
  | 'w' => some "[A-Za-z0-9_]"
  | 'W' => some "[^A-Za-z0-9_]"
  | 's' => some "[ \t\n\r\x0b\x0c\u00a0\u2003\ufeff\u2029]"
  | 'S' => some "[^ \t\n\r\x0b\x0c\u00a0\u2003\ufeff\u2029]"
  | _ => none

/-- Replaces `\cX` by the control character it names. -/
def spellControls : List Char → List Char
  | '\\' :: 'c' :: x :: rest =>
    if x.isAlpha then Char.ofNat (x.toUpper.toNat - 64) :: spellControls rest
    else '\\' :: 'c' :: spellControls (x :: rest)
  | c :: rest => c :: spellControls rest
  | [] => []

/-- Writes out the classes with a letter. -/
def spellClasses : List Char → List Char
  | '\\' :: c :: rest =>
    match spelledClass? c with
    | some text => text.toList ++ spellClasses rest
    | none => '\\' :: c :: spellClasses rest
  | c :: rest => c :: spellClasses rest
  | [] => []

/-- Reads a pattern of a schema. -/
def search? (pattern : String) : Option Search :=
  Search.ofPattern? (String.ofList (spellClasses (spellControls pattern.toList)))

/-! ### Kinds of texts -/

/-- A kind of texts. -/
inductive Format where
  | date
  | dateTime
  | time
  | email
  | hostname
  | ipv4
  | ipv6
  | address
  | reference
  | template
  | pointer
  | relativePointer
  | pattern
deriving DecidableEq, Repr

namespace Format

/-- The names of the formats that every version knows. -/
def named? : String → Option Format
  | "date" => some .date
  | "date-time" => some .dateTime
  | "time" => some .time
  | "email" => some .email
  | "idn-email" => some .email
  | "hostname" => some .hostname
  | "ipv4" => some .ipv4
  | "ipv6" => some .ipv6
  | "uri" => some .address
  | "regex" => some .pattern
  | _ => none

/-- The names that came second. -/
def namedSecond? : String → Option Format
  | "json-pointer" => some .pointer
  | "uri-reference" => some .reference
  | "uri-template" => some .template
  | _ => none

/-- The names that came last. -/
def namedLast? : String → Option Format
  | "idn-hostname" => some .hostname
  | "iri" => some .address
  | "iri-reference" => some .reference
  | "relative-json-pointer" => some .relativePointer
  | _ => none

/-- The format of that name; names that are not known ask for nothing. -/
def of? (d : Draft) (name : String) : Option Format :=
  let second := if d = .four then none else namedSecond? name
  let last := if d = .seven then namedLast? name else none
  (named? name).or (second.or last)

/-- Whether the text has an `@` with something before it; up to there no dot comes first, last or
after another. What follows is not looked at. -/
def isEmail : List Char → Bool
  | '.' :: _ => false
  | cs => scan cs
where
  scan : List Char → Bool
    | '.' :: '.' :: _ => false
    | '.' :: '@' :: _ => false
    | _ :: '@' :: _ => true
    | _ :: rest => scan rest
    | [] => false

def isHostname (cs : List Char) : Bool :=
  !cs.isEmpty && cs.head? ≠ some '-' && cs.getLast? ≠ some '-' && cs.length ≤ 255 &&
    cs.all (fun c => Unicode.isAlphanumeric c || c = '-' || c = '.') &&
    (Text.splitAt '.' cs).all fun label => label.length ≤ 63

/-- Steps, each after a slash; a tilde is followed by 0 or 1. -/
def isPointer : List Char → Bool
  | [] => true
  | '/' :: rest => inStep rest
  | _ => false
where
  inStep : List Char → Bool
    | [] => true
    | '~' :: c :: rest => (c = '0' || c = '1') && inStep rest
    | ['~'] => false
    | _ :: rest => inStep rest

/-- A number without zeros before it, and a number sign or a pointer. -/
def isRelativePointer (cs : List Char) : Bool :=
  let digits := cs.takeWhile Char.isDigit
  let rest := cs.dropWhile Char.isDigit
  !digits.isEmpty && (digits.length = 1 || digits.head? ≠ some '0') &&
    (rest = ['#'] || isPointer rest)

/-- Neither blanks nor backslashes. -/
def isReference (cs : List Char) : Bool :=
  cs.all fun c => c ≠ '\\' && !Unicode.isWhiteSpace c

/-- Texts and expressions in braces. -/
def templatePattern : String :=
  "^(?:(?:[^\\x00-\\x20\"'<>%\\\\^`\x7b|\x7d]|%[0-9a-f]\x7b2\x7d)|" ++
  "\\\x7b[+#./;?&=,!@|]?(?:[a-z0-9_]|%[0-9a-f]\x7b2\x7d)+(?::[1-9][0-9]\x7b0,3\x7d|\\*)?" ++
  "(?:,(?:[a-z0-9_]|%[0-9a-f]\x7b2\x7d)+(?::[1-9][0-9]\x7b0,3\x7d|\\*)?)*\x7d)*\\z"

def isTemplate (text : String) : Bool :=
  match (Search.ofPattern? templatePattern).map (Search.occurs text) with
  | some (.ok found) => found
  | _ => false

/-- Whether the text is of the kind. An address of four numbers must not begin with a zero. -/
def admits (text : String) : Format → Bool
  | .date => Text.isDate text
  | .dateTime => Text.isDateTime text
  | .time => Text.isTime text
  | .email => isEmail text.toList
  | .hostname => isHostname text.toList
  | .ipv4 => text.toList.head? ≠ some '0' && (Url.ipv4? text.toList).isSome
  | .ipv6 => (Url.ipv6? 1 text.toList).isSome
  | .address => (Url.read none text).toOption.isSome
  | .reference => isReference text.toList
  | .template => isTemplate text
  | .pointer => isPointer text.toList
  | .relativePointer => isRelativePointer text.toList
  | .pattern => (search? text).isSome

end Format

end Attest.Schema
