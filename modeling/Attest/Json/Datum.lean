import Attest.Json.Basic

/-!
Typed data that stands for a JSON value.

An expected value may be given as JSON, or as data of another type that is converted: numbers of
other widths, bytes, maps with keys that are no strings. Not all of it can be converted: whole
numbers must fit 64 bits, and the keys of an object must have a text.
-/

namespace Attest.Json

/-- Why data has no JSON value. -/
inductive EncodeError where
  | numberOutOfRange
  | keyNotString
deriving DecidableEq, Repr

def EncodeError.message : EncodeError → String
  | .numberOutOfRange => "number out of range"
  | .keyNotString => "key must be a string"

/-- Data that can be compared with JSON values. -/
inductive Datum where
  | json (v : Json)
  /-- A number of the 32-bit format, given by the double that is rounded to it. -/
  | single (x : Double)
  | double (x : Double)
  /-- A whole number of any width. -/
  | integer (n : Int)
  | bytes (bs : List UInt8)
  | character (c : Char)
  | nothing
  | byInteger (entries : List (Int × Json))
  | byBool (entries : List (Bool × Json))
  | byList (entries : List (List Int × Json))

/-- A double; infinities and what is no number have no JSON text and become null. -/
def ofDouble (x : Double) : Json := if x.isFinite then .double x else .null

/-- The JSON value of the data. -/
def Datum.toJson : Datum → Except EncodeError Json
  | .json v => .ok v
  | .single x => .ok (ofDouble x.toSingle)
  | .double x => .ok (ofDouble x)
  | .integer n =>
    if leastInteger ≤ n ∧ n ≤ greatestInteger then .ok (.integer n) else .error .numberOutOfRange
  | .bytes bs => .ok (.array (bs.map fun b => .integer b.toNat))
  | .character c => .ok (.string (String.singleton c))
  | .nothing => .ok .null
  | .byInteger entries => .ok (.object (ofMembers (entries.map fun (k, v) => (toString k, v))))
  | .byBool entries => .ok (.object (ofMembers (entries.map fun (k, v) => (toString k, v))))
  | .byList [] => .ok (.object [])
  | .byList (_ :: _) => .error .keyNotString

end Attest.Json
