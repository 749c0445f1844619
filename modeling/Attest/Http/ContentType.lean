import Attest.Failure
import Attest.Http.Headers
import Attest.Unicode.Property

/-!
The `Content-Type` header, and text in the charsets it can declare.

A value is cut at its semicolons, the pieces are trimmed and blank ones dropped; what is left must
be a media type with parameters (`readMedia?`). The media type keeps its spelling, the charset comes
in lower case. A value of another form counts as no content type at all: an empty media type without
charset.
-/

namespace Attest

/-- A parameter of a media type: its name, its value, and whether the value stood in quotes. -/
structure MediaParam where
  name : List Char
  value : List Char
  quoted : Bool
deriving DecidableEq, Repr

namespace MediaParam

/-- Controls may not stand in quotes. -/
def isQuotable (c : Char) : Bool := 31 < c.toNat && c.toNat ≠ 127

/-- Reads a value whose opening quote has been read. It has at least one character, and the first
may be a quote itself; after the closing quote come blanks and a semicolon, or the end. -/
def readQuoted? : List Char → Option (List Char × List Char)
  | [] => none
  | c :: s =>
    if isQuotable c then
      let inside (c : Char) : Bool := c ≠ '"' && isQuotable c
      match s.dropWhile inside with
      | '"' :: rest =>
        match rest.dropWhile (· = ' ') with
        | [] => some (c :: s.takeWhile inside, [])
        | ';' :: rest => some (c :: s.takeWhile inside, rest)
        | _ => none
      | _ => none
    else none

/-- Reads a value without quotes: it ends at a semicolon, or at the end, where it may be empty. -/
def readPlain? (s : List Char) : Option (List Char × List Char) :=
  match s.takeWhile isTokenChar, s.dropWhile isTokenChar with
  | value, [] => some (value, [])
  | c :: value, ';' :: rest => some (c :: value, rest)
  | _, _ => none

/-- Reads a parameter, and gives the text after its semicolon. -/
def read? (s : List Char) : Option (MediaParam × List Char) :=
  let s := s.dropWhile (· = ' ')
  match s.takeWhile isTokenChar, s.dropWhile isTokenChar with
  | c :: name, '=' :: '"' :: rest =>
    (readQuoted? rest).map fun (value, rest) => (⟨c :: name, value, true⟩, rest)
  | c :: name, '=' :: rest =>
    (readPlain? rest).map fun (value, rest) => (⟨c :: name, value, false⟩, rest)
  | _, _ => none

/-- Reads all parameters; each takes a character, so the length of the text is fuel enough. -/
def readAll? : (fuel : Nat) → List Char → Option (List MediaParam)
  | _, [] => some []
  | 0, _ => none
  | fuel + 1, s =>
    match read? s with
    | some (p, rest) => (readAll? fuel rest).map (p :: ·)
    | none => none

def isCharset (p : MediaParam) : Bool := Text.asciiLower p.name == "charset".toList

end MediaParam

/-- The parameters of `type/subtype; name=value; …`, if the text has this form. The subtype may be
empty where nothing follows. -/
def readMedia? (s : List Char) : Option (List MediaParam) :=
  match s.takeWhile isTokenChar, s.dropWhile isTokenChar with
  | _ :: _, '/' :: rest =>
    match rest.takeWhile isTokenChar, rest.dropWhile isTokenChar with
    | _, [] => some []
    | _ :: _, ';' :: rest => MediaParam.readAll? rest.length rest
    | _, _ => none
  | _, _ => none

def utf8Name : List Char := "utf-8".toList

/-- The charset that the parameters declare, in lower case. When the first parameter is UTF-8 and
others follow it, its value is taken from where it would stand without quotes, five characters
long: written in quotes, it comes out as the quote and four letters. -/
def charsetOf (params : List MediaParam) : Option (List Char) :=
  match params with
  | p :: _ :: _ =>
    if p.isCharset && Text.asciiLower p.value == utf8Name then
      some (if p.quoted then ('"' :: utf8Name).take 5 else utf8Name)
    else (params.find? (·.isCharset)).map fun p => Text.asciiLower p.value
  | _ => (params.find? (·.isCharset)).map fun p => Text.asciiLower p.value

/-- A media type and a charset. -/
structure ContentType where
  mediaType : String := ""
  charset : Option String := none
deriving DecidableEq, Repr

namespace ContentType

/-- What remains of the pieces between semicolons: trimmed, without the blank ones. -/
def segments (value : List Char) : List (List Char) :=
  ((Text.splitAt ';' value).map (Text.trimBy Unicode.isWhiteSpace)).filter (· ≠ [])

/-- The text before the first semicolon, trimmed. -/
def leading (value : List Char) : List Char :=
  match Text.splitAt ';' value with
  | first :: _ => Text.trimBy Unicode.isWhiteSpace first
  | [] => []

/-- Reads the value of a header. -/
def parse (value : String) : ContentType :=
  match readMedia? ([';', ' '].intercalate (segments value.toList)) with
  | none => {}
  | some params =>
    { mediaType := String.ofList (leading value.toList)
      charset := ((charsetOf params).filter (· ≠ [])).map String.ofList }

def charsetText (ct : ContentType) : String := ct.charset.getD ""

end ContentType

/-! ### Text in a charset -/

/-- The encodings that bodies can be read in. -/
inductive Encoding where
  | utf8
  | ascii
  | latin1
deriving DecidableEq, Repr

/-- The encoding that a charset names, in any letter case. -/
def Encoding.ofCharset? (charset : String) : Option Encoding :=
  let is (name : String) : Bool := Text.sameIgnoringCase charset name
  if is "utf-8" || is "utf8" then some .utf8
  else if is "us-ascii" || is "ascii" then some .ascii
  else if is "iso-8859-1" || is "latin1" then some .latin1
  else none

/-- Whether the charset is UTF-8, or none is declared. -/
def ContentType.isUtf8 (ct : ContentType) : Bool :=
  match ct.charset with
  | none => true
  | some charset => Encoding.ofCharset? charset == some .utf8

/-- The text of which each byte is one character. -/
def textOfBytes (bytes : List UInt8) : String :=
  String.ofList (bytes.map fun b => Char.ofNat b.toNat)

/-- Reads bytes in an encoding. -/
def Encoding.decode (bytes : List UInt8) : Encoding → Except Failure String
  | .utf8 =>
    match Text.Utf8.decode bytes with
    | .ok text => .ok text
    | .error e => .error ⟨.decodeFailure, "can't decode body as utf-8 text: " ++ e.message⟩
  | .ascii =>
    match bytes.findIdx? (0x80 ≤ ·) with
    | none => .ok (textOfBytes bytes)
    | some offset => .error ⟨.decodeFailure,
        s!"can't decode body as us-ascii: non-ascii byte at offset {offset}"⟩
  | .latin1 => .ok (textOfBytes bytes)

/-- Reads bytes in a charset; none declared means UTF-8. -/
def readText (bytes : List UInt8) (charset : Option String) : Except Failure String :=
  let charset := charset.getD "utf-8"
  match Encoding.ofCharset? charset with
  | some encoding => encoding.decode bytes
  | none => .error ⟨.unsupportedCharset,
      "unsupported charset " ++ Text.quote charset ++ " in \"Content-Type\" header"⟩

end Attest
