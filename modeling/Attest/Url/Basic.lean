import Attest.Text.Hex
import Attest.Text.Utf8

/-!
URLs.

A URL is kept in parts, each as it is written in the text of the URL: what may not stand there is
percent-encoded, names of schemes and hosts are in lower case, and a port that goes without saying
is left out. So two URLs are the same when their texts are.
-/

namespace Attest

/-- The path of a URL: segments, each after a slash, or a text without structure. -/
inductive Url.Path where
  | segments (names : List String)
  | flat (text : String)
deriving DecidableEq, Repr

structure Url where
  scheme : String
  /-- What stands between the two slashes and the path: user, host and port. -/
  authority : Option String
  path : Url.Path
  query : Option String := none
  fragment : Option String := none
deriving DecidableEq, Repr

namespace Url

/-- Why a text is no URL. -/
inductive Fault where
  | emptyHost
  | domainName
  | port
  | ipv4
  | ipv6
  | hostCharacter
  | noBase
  | flatBase
deriving DecidableEq, Repr

def Fault.message : Fault → String
  | .emptyHost => "empty host"
  | .domainName => "invalid international domain name"
  | .port => "invalid port number"
  | .ipv4 => "invalid IPv4 address"
  | .ipv6 => "invalid IPv6 address"
  | .hostCharacter => "invalid domain character"
  | .noBase => "relative URL without a base"
  | .flatBase => "relative URL with a cannot-be-a-base base"

/-! ### The text of a URL -/

def Path.text : Path → String
  | .segments names => String.join (names.map ("/" ++ ·))
  | .flat text => text

/-- What goes before a path without an authority, so that it is not taken for one. -/
def Path.guard : Path → String
  | .segments ("" :: _ :: _) => "/."
  | _ => ""

def text (u : Url) : String :=
  u.scheme ++ ":" ++
    (match u.authority with
      | some authority => "//" ++ authority
      | none => u.path.guard) ++
    u.path.text ++
    (match u.query with
      | some query => "?" ++ query
      | none => "") ++
    (match u.fragment with
      | some fragment => "#" ++ fragment
      | none => "")

def withoutFragment (u : Url) : Url := { u with fragment := none }

/-- A reference without a name is no different from one without a fragment. -/
def withoutEmptyFragment (u : Url) : Url := if u.fragment = some "" then u.withoutFragment else u

/-! ### Percent-encoding -/

def isControl (c : Char) : Bool := c.toNat < 0x20 || 0x7F ≤ c.toNat

/-- What is encoded in a fragment. -/
def inFragment (c : Char) : Bool := isControl c || [' ', '"', '<', '>', '`'].contains c

def inPath (c : Char) : Bool := inFragment c || ['#', '?', '{', '}'].contains c

def inUser (c : Char) : Bool :=
  inPath c || ['/', ':', ';', '=', '@', '[', '\\', ']', '^', '|'].contains c

/-- What is encoded in a query; the mark is an apostrophe that some schemes keep. -/
def inQuery (isSpecial : Bool) (c : Char) : Bool :=
  isControl c || [' ', '"', '#', '<', '>'].contains c || (isSpecial && c = '\'')

/-- Writes a byte as a percent sign and two digits. -/
def encodeByte (b : UInt8) : List Char :=
  '%' :: (Text.hexPadded 2 b.toNat).toList.map Char.toUpper

/-- Encodes the characters of a class. -/
def encode (p : Char → Bool) (cs : List Char) : String :=
  String.ofList (cs.flatMap fun c =>
    if p c then (String.utf8EncodeChar c).flatMap encodeByte else [c])

/-- Reads `%41` as the byte it stands for. -/
def decodeBytes : List Char → List UInt8
  | '%' :: a :: b :: rest =>
    match Text.hexDigit? a, Text.hexDigit? b with
    | some a, some b => UInt8.ofNat (a * 16 + b) :: decodeBytes rest
    | _, _ => 0x25 :: decodeBytes (a :: b :: rest)
  | c :: rest => String.utf8EncodeChar c ++ decodeBytes rest
  | [] => []

end Url

end Attest
