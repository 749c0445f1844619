import Attest.Backtrack.Machine
import Attest.Json.Printer
import Attest.Url.Basic

/-!
Violations: the ways in which a value fails a schema, or a document fails to be one, each with the
text that reports it.
-/

namespace Attest.Schema

/-- A bound on numbers. -/
inductive Bound where
  | minimum
  | maximum
  | exclusiveMinimum
  | exclusiveMaximum
deriving DecidableEq, Repr

def Bound.words : Bound → String
  | .minimum => "less than the minimum"
  | .maximum => "greater than the maximum"
  | .exclusiveMinimum => "less than or equal to the minimum"
  | .exclusiveMaximum => "greater than or equal to the maximum"

/-- What the size of a value is counted in. -/
inductive Measure where
  | characters
  | items
  | properties
deriving DecidableEq, Repr

/-- A number of units. -/
def Measure.count (m : Measure) (n : Nat) : String :=
  let one := n = 1
  toString n ++ match m with
    | .characters => if one then " character" else " characters"
    | .items => if one then " item" else " items"
    | .properties => if one then " property" else " properties"

/-- How a value with too little or too much of it is told. -/
def Measure.excess (m : Measure) (tooMuch : Bool) : String :=
  match m, tooMuch with
  | .characters, false => "is shorter than"
  | .characters, true => "is longer than"
  | _, false => "has less than"
  | _, true => "has more than"

/-- Why the document at an address cannot be had. -/
inductive Unreachable where
  /-- The address is relative to a document that has no name. -/
  | nameless
  | noFile
  | notLocal
  | unsent (url : Url)
  | unknownScheme (scheme : String)
deriving DecidableEq, Repr

def Unreachable.message : Unreachable → String
  | .nameless => "cannot resolve relative external schema without root schema ID"
  | .noFile => "No such file or directory (os error 2)"
  | .notLocal => "invalid file path"
  | .unsent url => "error sending request for url (" ++ url.text ++ ")"
  | .unknownScheme scheme => "unknown scheme " ++ scheme

inductive Violation where
  | falseSchema (v : Json)
  | wrongType (v : Json) (type : String)
  | wrongTypes (v : Json) (types : List String)
  | notListed (v options : Json)
  | notExpected (expected : Json)
  | outOfBound (v : Json) (bound : Bound) (limit : Json)
  | notMultiple (v : Json) (divisor : Double)
  | wrongSize (v : Json) (measure : Measure) (tooMuch : Bool) (limit : Nat)
  | noMatch (v : Json) (pattern : String)
  /-- Whether a pattern occurs was not found out. -/
  | unfinished (limit : Backtrack.Limit)
  | wrongFormat (v : Json) (format : String)
  | repeatedItems (v : Json)
  | noneContained (v : Json)
  | missing (name : String)
  | unexpectedProperties (names : List String)
  | unexpectedItems (items : List Json)
  | forbidden (schema v : Json)
  | noneOf (v : Json) (keyword : String)
  | severalOf (v : Json)
  | wrongEncoding (v : Json)
  | wrongContent (v : Json)
  /-- A text does not encode characters. -/
  | wrongBytes (error : Text.Utf8.Error)
  | wrongUrl (fault : Url.Fault)
  | invalidReference (target : Url)
  | unreachable (target : Url) (reason : Unreachable)
  /-- The schemas of an object's members cannot be read. -/
  | unusable

namespace Violation

/-- The list of what was not expected, with a verb that agrees in number. -/
def unexpected (shown : List String) : String :=
  "(" ++ ", ".intercalate shown ++ (if shown.length = 1 then " was" else " were") ++ " unexpected)"

def inQuotes (s : String) : String := "\"" ++ s ++ "\""

def message : Violation → String
  | .falseSchema v => "False schema does not allow " ++ v.text
  | .wrongType v t => v.text ++ " is not of type " ++ inQuotes t
  | .wrongTypes v ts => v.text ++ " is not of types " ++ ", ".intercalate (ts.map inQuotes)
  | .notListed v options => v.text ++ " is not one of " ++ options.text
  | .notExpected expected => expected.text ++ " was expected"
  | .outOfBound v bound limit => v.text ++ " is " ++ bound.words ++ " of " ++ limit.text
  | .notMultiple v divisor =>
    v.text ++ " is not a multiple of " ++ Decimal.message.text divisor
  | .wrongSize v measure tooMuch limit =>
    v.text ++ " " ++ measure.excess tooMuch ++ " " ++ measure.count limit
  | .noMatch v pattern => v.text ++ " does not match " ++ inQuotes pattern
  | .unfinished limit => "Error executing regex: " ++ limit.message
  | .wrongFormat v format => v.text ++ " is not a " ++ inQuotes format
  | .repeatedItems v => v.text ++ " has non-unique elements"
  | .noneContained v => "None of " ++ v.text ++ " are valid under the given schema"
  | .missing name => (Json.string name).text ++ " is a required property"
  | .unexpectedProperties names =>
    "Additional properties are not allowed " ++ unexpected (names.map fun n => "'" ++ n ++ "'")
  | .unexpectedItems items =>
    "Additional items are not allowed " ++ unexpected (items.map Json.text)
  | .forbidden schema v => schema.text ++ " is not allowed for " ++ v.text
  | .noneOf v keyword =>
    v.text ++ " is not valid under any of the schemas listed in the '" ++ keyword ++ "' keyword"
  | .severalOf v =>
    v.text ++ " is valid under more than one of the schemas listed in the 'oneOf' keyword"
  | .wrongEncoding v => v.text ++ " is not compliant with \"base64\" content encoding"
  | .wrongContent v => v.text ++ " is not compliant with \"application/json\" media type"
  | .wrongBytes error => error.message
  | .wrongUrl fault => fault.message
  | .invalidReference target => "Invalid reference: " ++ target.text
  | .unreachable target reason =>
    "failed to resolve " ++ target.text ++ ": " ++ reason.message
  | .unusable => "Schema error"

end Violation

end Attest.Schema
