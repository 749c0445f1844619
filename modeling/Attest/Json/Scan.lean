import Attest.Json.Basic
import Attest.Text.Hex
import Attest.Text.Utf8

/-!
The leaves of JSON text: blanks, words, strings and numbers.

A scanner takes the characters that are left and returns what it read with the characters after it,
or a `Fault`: a cause and the place, given by the characters left there and the bytes of them
already looked at. Turning a place into a line and a column is left to `Position.of`, so scanners do
not count.
-/

namespace Attest.Json

open Text (hexDigit?)

/-- What is wrong with a text that is no JSON document. -/
inductive Cause where
  | endInValue
  | endInString
  | endInList
  | endInObject
  | expectedValue
  | expectedWord
  | invalidNumber
  | numberOutOfRange
  | trailingCharacters
  | controlCharacter
  | invalidEscape
  | endOfHexEscape
  | loneSurrogate
  | trailingComma
  | expectedListEnd
  | expectedObjectEnd
  | expectedColon
  | keyNotString
  | tooDeep
deriving DecidableEq, Repr

def Cause.message : Cause → String
  | .endInValue => "EOF while parsing a value"
  | .endInString => "EOF while parsing a string"
  | .endInList => "EOF while parsing a list"
  | .endInObject => "EOF while parsing an object"
  | .expectedValue => "expected value"
  | .expectedWord => "expected ident"
  | .invalidNumber => "invalid number"
  | .numberOutOfRange => "number out of range"
  | .trailingCharacters => "trailing characters"
  | .controlCharacter => "control character (\\u0000-\\u001F) found while parsing a string"
  | .invalidEscape => "invalid escape"
  | .endOfHexEscape => "unexpected end of hex escape"
  | .loneSurrogate => "lone leading surrogate in hex escape"
  | .trailingComma => "trailing comma"
  | .expectedListEnd => "expected `,` or `]`"
  | .expectedObjectEnd => "expected `,` or `\x7d`"
  | .expectedColon => "expected `:`"
  | .keyNotString => "key must be a string"
  | .tooDeep => "recursion limit exceeded"

/-- A cause, with the characters left at its place and how many bytes of them belong before it. -/
structure Fault (ε : Type) where
  cause : ε
  rest : List Char
  ahead : Nat
deriving Repr

/-- What a scanner gives; for most, what it read and the characters after it. -/
abbrev Scan (ε α : Type) := Except (Fault ε) α

/-- A fault at the place reached. -/
def failAt {ε α : Type} (cause : ε) (rest : List Char) : Scan ε α := .error ⟨cause, rest, 0⟩

/-- A fault in the character that comes next. -/
def failIn {ε α : Type} (cause : ε) (rest : List Char) : Scan ε α := .error ⟨cause, rest, 1⟩

/-- The number of bytes that the characters take. -/
def byteCount (cs : List Char) : Nat := cs.foldr (fun c n => c.utf8Size + n) 0

/-- A place in a text: lines count from 1, columns are the bytes since the last line break. -/
structure Position where
  line : Nat
  column : Nat
deriving DecidableEq, Repr

/-- The place reached after the bytes. -/
def Position.after : List UInt8 → Position :=
  List.foldl (fun p b => if b = 0x0A then ⟨p.line + 1, 0⟩ else ⟨p.line, p.column + 1⟩) ⟨1, 0⟩

/-- The place of a fault in `text`. -/
def Position.of {ε : Type} (text : List Char) (fault : Fault ε) : Position :=
  let offset := byteCount text - byteCount fault.rest + fault.ahead
  Position.after ((Text.Utf8.encode text).take offset)

def isBlank (c : Char) : Bool := c = ' ' || c = '\n' || c = '\t' || c = '\r'

def skipBlanks (s : List Char) : List Char := s.dropWhile isBlank

/-- Reads the rest of a word whose first character has been recognised. -/
def scanWord : (letters : List Char) → List Char → Scan Cause (List Char)
  | [], s => .ok s
  | _ :: _, [] => .error ⟨.endInValue, [], 0⟩
  | l :: more, c :: s => if c = l then scanWord more s else .error ⟨.expectedWord, c :: s, 1⟩

/-! ### Strings -/

/-- Reads the four digits of an escape. Fewer than four bytes left are an end, wherever it comes. -/
def scanHex (s : List Char) : Scan Cause (Nat × List Char) :=
  match s with
  | a :: b :: c :: d :: rest =>
    match hexDigit? a, hexDigit? b, hexDigit? c, hexDigit? d with
    | some a, some b, some c, some d => .ok (((a * 16 + b) * 16 + c) * 16 + d, rest)
    | _, _, _, _ => .error ⟨.invalidEscape, s, 4⟩
  | _ => if 4 ≤ byteCount s then .error ⟨.invalidEscape, s, 4⟩ else failAt .endInString []

/-- Reads the second half of a character outside the basic plane, of which `high` is the first. -/
def scanLowHalf (high : Nat) : List Char → Scan Cause (Char × List Char)
  | [] => failAt .endInString []
  | '\\' :: [] => failAt .endInString []
  | '\\' :: 'u' :: s => do
    let (low, rest) ← scanHex s
    if 0xDC00 ≤ low ∧ low ≤ 0xDFFF then
      .ok (Char.ofNat (0x10000 + (high - 0xD800) * 0x400 + (low - 0xDC00)), rest)
    else failAt .loneSurrogate rest
  | '\\' :: s => failIn .endOfHexEscape s
  | s => failIn .endOfHexEscape s

/-- Reads what stands after `\u`. -/
def scanUnicode (s : List Char) : Scan Cause (Char × List Char) := do
  let (n, rest) ← scanHex s
  if 0xDC00 ≤ n ∧ n ≤ 0xDFFF then failAt .loneSurrogate rest
  else if 0xD800 ≤ n ∧ n ≤ 0xDBFF then scanLowHalf n rest
  else .ok (Char.ofNat n, rest)

/-- Reads what stands after a backslash. -/
def scanEscape : List Char → Scan Cause (Char × List Char)
  | [] => failAt .endInString []
  | '"' :: s => .ok ('"', s)
  | '\\' :: s => .ok ('\\', s)
  | '/' :: s => .ok ('/', s)
  | 'b' :: s => .ok ('\x08', s)
  | 'f' :: s => .ok ('\x0c', s)
  | 'n' :: s => .ok ('\n', s)
  | 'r' :: s => .ok ('\r', s)
  | 't' :: s => .ok ('\t', s)
  | 'u' :: s => scanUnicode s
  | s => failIn .invalidEscape s

/-- Reads the characters after an opening quote, up to the closing one. Each step takes a character,
so as much fuel as there are characters suffices. -/
def scanChars : (fuel : Nat) → List Char → Scan Cause (List Char × List Char)
  | 0, _ => failAt .endInString []
  | _ + 1, [] => failAt .endInString []
  | _ + 1, '"' :: s => .ok ([], s)
  | fuel + 1, '\\' :: s => do
    let (c, s) ← scanEscape s
    let (cs, s) ← scanChars fuel s
    .ok (c :: cs, s)
  | fuel + 1, c :: s =>
    if c.toNat < 0x20 then failIn .controlCharacter (c :: s)
    else do
      let (cs, s) ← scanChars fuel s
      .ok (c :: cs, s)

/-- Reads a string whose opening quote has been read. -/
def scanString (s : List Char) : Scan Cause (String × List Char) := do
  let (cs, s) ← scanChars (s.length + 1) s
  .ok (String.ofList cs, s)

/-! ### Numbers -/

def isDigit (c : Char) : Bool := '0' ≤ c && c ≤ '9'

/-- Appends the digits to a number written before them. -/
def appendDigits (n : Nat) (digits : List Char) : Nat :=
  digits.foldl (fun n c => n * 10 + (c.toNat - 48)) n

/-- A number as it was written: `± whole.fraction e exponent`. -/
structure Numeral where
  negative : Bool
  whole : List Char
  fraction : Option (List Char)
  exponent : Option Int

/-- Appends digits to a number as long as the outcome fits 64 bits, and gives those that are left
over. -/
def appendFitting (n : Nat) : (digits : List Char) → Nat × List Char
  | [] => (n, [])
  | c :: rest =>
    let next := n * 10 + (c.toNat - 48)
    if next < pow2 64 then appendFitting next rest else (n, c :: rest)

/-- The double it is read as. Of the whole part and then of the fraction only the digits that fit
count; those of the whole part that are left over count as zeros. None: it is out of range. -/
def Numeral.double? (n : Numeral) : Option Double :=
  let fraction := n.fraction.getD []
  let (whole, zeros) := appendFitting 0 n.whole
  let (significand, ignored) := appendFitting whole fraction
  let exponent := n.exponent.getD 0 + zeros.length - (fraction.length - ignored.length)
  (Double.ofDecimal? significand exponent).map (Double.withSign n.negative)

/-- The number it is read as: whole where it was written so and fits, else a double. Minus zero is a
double, since no whole number has its sign. None: it is out of range. -/
def Numeral.value? (n : Numeral) : Option Json :=
  let whole := appendDigits 0 n.whole
  let asDouble := n.double?.map Json.double
  if n.fraction.isSome || n.exponent.isSome then asDouble
  else if n.negative then
    if 0 < whole ∧ whole ≤ pow2 63 then some (.integer (-(whole : Int))) else asDouble
  else if whole < pow2 64 then some (.integer whole) else asDouble

/-- The exponent past which reading stops to count: the digits seen already decide the range. -/
def exponentLimit : Nat := pow2 31 - 1

/-- The characters after the digit with which the exponent passes the limit. -/
def exponentOverflow? : (value : Nat) → List Char → Option (List Char)
  | _, [] => none
  | value, c :: s =>
    if isDigit c then
      let value := value * 10 + (c.toNat - 48)
      if exponentLimit < value then some s else exponentOverflow? value s
    else none

/-- Reads what stands after the letter of an exponent. A number other than zero with an exponent
past the limit is out of range at the digit that passes it. -/
def scanExponent (significand : List Char) (s : List Char) : Scan Cause (Int × List Char) :=
  let (negative, s) := match s with
    | '+' :: s => (false, s)
    | '-' :: s => (true, s)
    | s => (false, s)
  match s with
  | [] => failAt .endInValue []
  | c :: _ =>
    if isDigit c then
      let value : Int := appendDigits 0 (s.takeWhile isDigit)
      match exponentOverflow? 0 s with
      | some rest =>
        if negative || significand.all (· == '0') then
          .ok (if negative then -value else value, s.dropWhile isDigit)
        else failAt .numberOutOfRange rest
      | none => .ok (if negative then -value else value, s.dropWhile isDigit)
    else failIn .invalidNumber s

/-- Reads the fraction of a number, if there is one. -/
def scanFraction : List Char → Scan Cause (Option (List Char) × List Char)
  | '.' :: s =>
    match s with
    | [] => failAt .endInValue []
    | c :: _ =>
      if isDigit c then .ok (some (s.takeWhile isDigit), s.dropWhile isDigit)
      else failIn .invalidNumber s
  | s => .ok (none, s)

/-- Reads the digits before the point. A leading zero stands alone. -/
def scanWhole : List Char → Scan Cause (List Char × List Char)
  | [] => failAt .endInValue []
  | '0' :: s =>
    match s with
    | c :: _ => if isDigit c then failIn .invalidNumber s else .ok (['0'], s)
    | [] => .ok (['0'], [])
  | c :: s =>
    if isDigit c then .ok (c :: s.takeWhile isDigit, s.dropWhile isDigit)
    else failIn .invalidNumber (c :: s)

/-- Reads the digits, point and exponent of a number whose sign has been read. -/
def scanNumeral (negative : Bool) (s : List Char) : Scan Cause (Numeral × List Char) := do
  let (whole, s) ← scanWhole s
  let (fraction, s) ← scanFraction s
  match s with
  | 'e' :: s => do
    let (e, s) ← scanExponent (whole ++ fraction.getD []) s
    .ok (⟨negative, whole, fraction, some e⟩, s)
  | 'E' :: s => do
    let (e, s) ← scanExponent (whole ++ fraction.getD []) s
    .ok (⟨negative, whole, fraction, some e⟩, s)
  | s => .ok (⟨negative, whole, fraction, none⟩, s)

/-- Reads a number whose sign has been read. -/
def scanNumber (negative : Bool) (s : List Char) : Scan Cause (Json × List Char) := do
  let (numeral, rest) ← scanNumeral negative s
  match numeral.value? with
  | some v => .ok (v, rest)
  | none => failAt .numberOutOfRange rest

end Attest.Json
