import Attest.Json.Compare
import Attest.Json.Reader
import Attest.Schema.Rule
import Attest.Text.Base64

/-!
What the rules that hold no schema ask of a value: its type, its size, its place among numbers, the
form of its text.
-/

namespace Attest.Schema

open Backtrack (Limit Search)

/-! ### Types -/

/-- The names of types, in the order in which they are listed. -/
def typeNames : List String :=
  ["array", "boolean", "integer", "null", "number", "object", "string"]

/-- Whether a value is of the type of that name; a double without fraction is an integer too, unless
integers are strict. -/
def hasType (isStrict : Bool) (v : Json) (type : String) : Bool :=
  match v with
  | .null => type == "null"
  | .bool _ => type == "boolean"
  | .integer _ => type == "integer" || type == "number"
  | .double _ => type == "number" || (type == "integer" && !isStrict && v.isWhole)
  | .string _ => type == "string"
  | .array _ => type == "array"
  | .object _ => type == "object"

def checkType (isStrict : Bool) (type : String) (v : Json) : List Violation :=
  if hasType isStrict v type then [] else [.wrongType v type]

def checkTypes (isStrict : Bool) (types : List String) (v : Json) : List Violation :=
  if types.any (hasType isStrict v) then [] else [.wrongTypes v types]

/-! ### Values -/

def checkEnum (options v : Json) : List Violation :=
  match options with
  | .array items => if items.any (v.same ·) then [] else [.notListed v options]
  | _ => []

/-- The distance of two doubles, as a double. -/
def distance? (a b : Double) : Option Double :=
  match Json.Rational.ofDouble? a, Json.Rational.ofDouble? b with
  | some a, some b =>
    some (Double.ofRatio false (a.num * b.den - b.num * a.den).natAbs (a.den * b.den))
  | _, _ => none

/-- The gap between 1 and the next double. -/
def gap : Double := Double.ofRatio false 1 (pow2 52)

/-- A constant that is a number is met by a number that lies less than the gap away. -/
def checkConst (expected v : Json) : List Violation :=
  let met : Bool := match expected.toDouble?, v.toDouble? with
    | some a, some b => (distance? a b).any (·.lt gap)
    | _, _ => expected.same v
  if met then [] else [.notExpected expected]

/-! ### Numbers -/

def Bound.allows (b : Bound) (o : Ordering) : Bool :=
  match b with
  | .minimum => o ≠ .lt
  | .maximum => o ≠ .gt
  | .exclusiveMinimum => o = .gt
  | .exclusiveMaximum => o = .lt

def checkBound (b : Bound) (limit v : Json) : List Violation :=
  match v.compareNumbers? limit with
  | some o => if b.allows o then [] else [.outOfBound v b limit]
  | none => []

/-- The rational that a number's decimal text is. -/
def ofText (x : Double) : Json.Rational :=
  match x.form with
  | .finite negative significand exponent =>
    if significand = 0 then ⟨0, 1⟩
    else
      let d := Decimal.shortest significand exponent
      let num := d.digits * pow10 d.exponent.toNat
      ⟨if negative then -(num : Int) else num, pow10 (-d.exponent).toNat⟩
  | _ => ⟨0, 1⟩

/-- Whether the quotient of two numbers is whole. -/
def Json.Rational.divides (divisor x : Json.Rational) : Bool :=
  divisor.num ≠ 0 && (x.num * divisor.den) % (x.den * divisor.num) == 0

/-- Whether the quotient is whole. A divisor with a fraction is tried by dividing doubles: what is
left beyond the whole part must be less than the gap between 1 and the next double, which holds of
every negative quotient; where the quotient is past all doubles, the decimal texts of the numbers
are divided. -/
def isMultiple (x divisor : Double) : Bool :=
  if divisor.isWhole then
    match Json.Rational.ofDouble? x, Json.Rational.ofDouble? divisor with
    | some x, some divisor => Json.Rational.divides divisor x
    | _, _ => false
  else
    match (x.div divisor).form with
    | .finite negative m e =>
      let (num, den) := Double.ratio m e
      negative || (num % den) * pow2 52 < den
    | _ => Json.Rational.divides (ofText divisor) (ofText x)

def checkMultiple (divisor : Double) (v : Json) : List Violation :=
  match v.toDouble? with
  | some x => if isMultiple x divisor then [] else [.notMultiple v divisor]
  | none => []

/-! ### Sizes -/

/-- The size of a value that is counted in such units. -/
def Measure.size? (m : Measure) : Json → Option Nat
  | .string s => if m = .characters then some s.length else none
  | .array vs => if m = .items then some vs.length else none
  | .object ms => if m = .properties then some ms.length else none
  | _ => none

def checkSize (m : Measure) (isMost : Bool) (limit : Nat) (v : Json) : List Violation :=
  match m.size? v with
  | some size =>
    if (if isMost then limit < size else size < limit) then [.wrongSize v m isMost limit] else []
  | none => []

/-- Whether no member of the list is like a later one. -/
def noneAlike {α : Type} (like : α → α → Bool) : List α → Bool
  | [] => true
  | a :: rest => !rest.any (like a) && noneAlike like rest

/-- Whether no item is like another. Up to 15 items are compared by value, so `1` is like `1.0`;
longer lists are compared by their texts, so not even `0.0` is like `-0.0`. -/
def areDistinct (items : List Json) : Bool :=
  if items.length ≤ 15 then noneAlike Json.same items
  else noneAlike (· == ·) (items.map Json.text)

def checkDistinct (v : Json) : List Violation :=
  match v with
  | .array items => if areDistinct items then [] else [.repeatedItems v]
  | _ => []

/-! ### Texts -/

/-- Whether a pattern is found in a text; it is not where trying comes to a limit. -/
def occursIn (search : Search) (text : String) : Bool :=
  match search.occurs text with
  | .ok found => found
  | .error _ => false

def checkPattern (pattern : String) (search : Search) (v : Json) : List Violation :=
  match v with
  | .string s =>
    match search.occurs s with
    | .ok true => []
    | .ok false => [.noMatch v pattern]
    | .error limit => [.unfinished limit]
  | _ => []

def checkFormat (name : String) (format : Format) (v : Json) : List Violation :=
  match v with
  | .string s => if format.admits s then [] else [.wrongFormat v name]
  | _ => []

/-- Whether the text is a JSON document. -/
def isDocument (text : String) : Bool := (Json.read text).toOption.isSome

def checkDocument (v : Json) : List Violation :=
  match v with
  | .string s => if isDocument s then [] else [.wrongContent v]
  | _ => []

/-- A text in Base64. What it encodes is looked at only where it must be a document. -/
def checkEncoded (mustBeDocument : Bool) (v : Json) : List Violation :=
  match v with
  | .string s =>
    match Text.Base64.decode? s.toList with
    | none => [.wrongEncoding v]
    | some bytes =>
      if !mustBeDocument then []
      else
        match Text.Utf8.decode bytes with
        | .error error => [.wrongBytes error]
        | .ok text => if isDocument text then [] else [.wrongContent v]
  | _ => []

/-! ### Members -/

/-- The names that an object lacks. -/
def checkRequired (names : List String) (v : Json) : List Violation :=
  match v with
  | .object members => names.filterMap fun name =>
      if (Json.get? name members).isSome then none else some (.missing name)
  | _ => []

end Attest.Schema
