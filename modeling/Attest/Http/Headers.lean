import Attest.Text.Case
import Attest.Text.Quoted
import Attest.Text.Utf8

/-!
Header fields of a response.

Names are tokens (which may hold quotes) and do not depend on letter case, so they are kept in lower
case; a name may have several values, kept in the order they came. `Headers.valuesOf` is the view by
which everything else is told apart: looking a name up, and equality of two sets of headers.
-/

namespace Attest

/-- The characters of tokens, such as the names of media types. -/
def isTokenChar (c : Char) : Bool :=
  c.isAlphanum || ['!', '#', '$', '%', '&', '\'', '*', '+', '-', '.', '^', '_', '\x60', '|',
    '~'].contains c

/-- The characters of header names: those of tokens, and the double quote. -/
def isHeaderNameChar (c : Char) : Bool := isTokenChar c || c = '"'

/-- The longest header name. -/
def longestHeaderName : Nat := 65535

/-- The name in lower case, if it is one. -/
def headerName? (name : String) : Option String :=
  let cs := name.toList
  if cs ≠ [] ∧ cs.all isHeaderNameChar ∧ cs.length ≤ longestHeaderName then
    some (String.ofList (Text.asciiLower cs))
  else none

/-- Header values hold no control bytes other than the tab. -/
def isHeaderValue (value : List UInt8) : Bool :=
  value.all fun b => b = 0x09 || (0x20 ≤ b && b ≠ 0x7F)

/-- Why a list of fields makes no headers. -/
inductive HeaderError where
  | invalidName
  | invalidValue
deriving DecidableEq, Repr

def HeaderError.message : HeaderError → String
  | .invalidName => "invalid HTTP header name"
  | .invalidValue => "failed to parse header value"

/-- Headers: each name once, in the order of first appearance, with its values. -/
structure Headers where
  entries : List (String × List (List UInt8))
deriving DecidableEq, Repr, Inhabited

namespace Headers

def empty : Headers := ⟨[]⟩

def appendEntry (name : String) (value : List UInt8) :
    List (String × List (List UInt8)) → List (String × List (List UInt8))
  | [] => [(name, [value])]
  | (n, vs) :: rest =>
    if n = name then (n, vs ++ [value]) :: rest else (n, vs) :: appendEntry name value rest

/-- Adds a value after those that the name, given in lower case, already has. -/
def append (h : Headers) (name : String) (value : List UInt8) : Headers :=
  ⟨appendEntry name value h.entries⟩

/-- The headers of a list of fields. -/
def ofFields? : List (List UInt8 × List UInt8) → (sofar : Headers) → Except HeaderError Headers
  | [], h => .ok h
  | (name, value) :: rest, h =>
    match (Text.Utf8.decode name).toOption.bind headerName? with
    | none => .error .invalidName
    | some name =>
      if isHeaderValue value then ofFields? rest (h.append name value) else .error .invalidValue

/-- The values under a name in lower case. -/
def valuesOf (h : Headers) (name : String) : List (List UInt8) :=
  (h.entries.lookup name).getD []

/-- The values of a name in any letter case; what is no header name has none. -/
def getAll (h : Headers) (name : String) : List (List UInt8) :=
  match headerName? name with
  | some n => h.valuesOf n
  | none => []

def contains (h : Headers) (name : String) : Bool := !(h.getAll name).isEmpty

/-- The values of a name as text. -/
def texts (h : Headers) (name : String) : List String :=
  (h.getAll name).map Text.Utf8.decodeLossy

/-- The first value of a name as text. -/
def first? (h : Headers) (name : String) : Option String := (h.texts name).head?

/-- Every value with its name, the values of a name together. -/
def fields (h : Headers) : List (String × List UInt8) :=
  h.entries.flatMap fun (n, vs) => vs.map fun v => (n, v)

/-- Whether every name has the same values in the same order: as many values in all, and for each
name of the one those of the other. -/
def equal (a b : Headers) : Bool :=
  a.fields.length == b.fields.length && a.entries.all fun e => a.valuesOf e.1 == b.valuesOf e.1

/-- A value between quotes; bytes other than printable ASCII and the tab are written `\xff`. -/
def describeValue (value : List UInt8) : String :=
  let shown (b : UInt8) : String :=
    if b = 0x22 then "\\\""
    else if b = 0x09 ∨ (0x20 ≤ b ∧ b < 0x7F) then String.singleton (Char.ofNat b.toNat)
    else "\\x" ++ Text.hexText b.toNat
  "\"" ++ String.join (value.map shown) ++ "\""

def description (h : Headers) : String :=
  let shown := h.fields.map fun (n, v) => Text.quote n ++ ": " ++ describeValue v
  "\x7b" ++ ", ".intercalate shown ++ "\x7d"

end Headers

end Attest
