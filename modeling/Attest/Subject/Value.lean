import Attest.Act
import Attest.Failure
import Attest.Json.Datum
import Attest.Json.Printer
import Attest.Schema.Validate

/-!
Checks on JSON values, objects and arrays, and the parts that they give access to.

A value may be absent: it then stands for a document that could not be read, and is no JSON value,
not even null.
-/

namespace Attest

/-- A JSON value, as far as there is one. -/
abbrev OptJson := Option Json

namespace OptJson

/-- What kind of value it is, in a few words. -/
def describe : OptJson → String
  | none => "absent value"
  | some .null => "null"
  | some (.bool b) => s!"boolean {b}"
  | some (.integer n) => s!"number {n}"
  | some (.double x) => "number " ++ Decimal.json.text x
  | some (.string s) => "string " ++ Text.quote s
  | some (.array items) => s!"array of {items.length} elements"
  | some (.object members) => s!"object with {members.length} keys"

def shown : OptJson → String
  | some v => v.text
  | none => "<absent>"

/-- Whether it is the expected value; an absent one never is. -/
def equals (v : OptJson) (expected : Json) : Bool := v.any (·.eqv expected)

end OptJson

/-- The message of two values that should be equal. -/
def mismatchText (expected : Json) (actual : OptJson) : String :=
  Failure.mismatchMessage "value" expected.text actual.shown

/-- The JSON value of data that was given for comparison, or the failure that it has none. -/
def comparable (d : Json.Datum) : Except Failure Json :=
  match d.toJson with
  | .ok v => .ok v
  | .error e => .error (.value ("expected value can't be converted to JSON: " ++ e.message))

/-- The verdict on a comparison with data. -/
def compareWith (d : Json.Datum) (judge : Json → Verdict) : Verdict :=
  match comparable d with
  | .ok v => judge v
  | .error f => some f

namespace Act

/-- The JSON value of data, which an OK chain alone has a look at. -/
def canonical (d : Json.Datum) : Act Chain (Option Json) :=
  obtain ((comparable d).map some) none

/-- Compares with data that has a JSON value. -/
def compare (d : Json.Datum) (judge : Json → Verdict) : Act Chain Unit := do
  match ← canonical d with
  | some v => check (judge v)
  | none => return ()

end Act

/-! ### Values -/

/-- A check on a value. -/
inductive ValueCheck where
  | null
  | notNull
  | equal (expected : Json.Datum)
  | notEqual (unexpected : Json.Datum)
  | schema (s : Json)

namespace ValueCheck

def equalVerdict (v : OptJson) (e : Json) : Verdict :=
  require (v.equals e) (.value (mismatchText e v))

def notEqualVerdict (v : OptJson) (u : Json) : Verdict :=
  require (!v.equals u) (.value ("expected value not equal to:\n  " ++ u.text))

def invalidSchema (fault : Schema.Violation) : Failure :=
  .value ("invalid JSON schema: " ++ fault.message)

/-- What the value violates of a schema is listed one by one. -/
def violationVerdict (violations : List Schema.Violation) : Verdict :=
  let reasons := violations.map fun violation => "  " ++ violation.message
  require reasons.isEmpty
    (.value ("expected value matching schema, but validation failed:\n"
      ++ "\n".intercalate reasons))

/-- The verdict of a schema; an absent value is taken for null. -/
def schemaVerdict (v : OptJson) (s : Json) : Verdict :=
  match Schema.check s (v.getD .null) with
  | .error fault => some (invalidSchema fault)
  | .ok violations => violationVerdict violations

def verdict (v : OptJson) : ValueCheck → Verdict
  | .null =>
    require (match v with | some .null => true | _ => false)
      (.value ("expected null, but got " ++ v.describe))
  | .notNull =>
    require (match v with | none => false | some .null => false | _ => true)
      (.value ("expected non-null value, but got " ++ v.describe))
  | .equal expected => compareWith expected (equalVerdict v)
  | .notEqual unexpected => compareWith unexpected (notEqualVerdict v)
  | .schema s => schemaVerdict v s

/-- A schema is compiled, and data converted, on an OK chain alone. -/
def act (v : OptJson) : ValueCheck → Act Chain Unit
  | .equal expected => Act.compare expected (equalVerdict v)
  | .notEqual unexpected => Act.compare unexpected (notEqualVerdict v)
  | .schema s => do
    if ← Act.isFailed then return ()
    match Schema.check s (v.getD .null) with
    | .error fault => Act.fail (invalidSchema fault)
    | .ok violations =>
      match violationVerdict violations with
      | some f => Act.fail f
      | none => return ()
  | k => Act.check (k.verdict v)

end ValueCheck

/-- The failure that a value is of another kind than wanted. -/
def wrongKind (wanted : String) (v : OptJson) : Failure :=
  .value ("expected " ++ wanted ++ ", but got " ++ v.describe)

/-- The part of a value that `pick` finds, or the failure that it is of another kind. -/
def typedPart {α : Type} (wanted : String) (pick : Json → Option α) (v : OptJson) :
    Except Failure α :=
  match v.bind pick with
  | some a => .ok a
  | none => .error (wrongKind wanted v)

/-- The part of a value on an OK chain, which fails where the value is of another kind. -/
def Act.typed {α : Type} (wanted : String) (pick : Json → Option α) (v : OptJson) :
    Act Chain (Option α) :=
  obtain ((typedPart wanted pick v).map some) none

namespace Json

def members? : Json → Option Members
  | .object ms => some ms
  | _ => none

def items? : Json → Option (List Json)
  | .array items => some items
  | _ => none

def string? : Json → Option String
  | .string s => some s
  | _ => none

def bool? : Json → Option Bool
  | .bool b => some b
  | _ => none

end Json

/-! ### Objects -/

/-- A check on an object. -/
inductive ObjectCheck where
  | empty
  | notEmpty
  | containsKey (key : String)
  | notContainsKey (key : String)
  | equal (expected : Json.Datum)

namespace ObjectCheck

def missingKey (key : String) : Failure :=
  .value ("expected object containing key " ++ Text.quote key)

def verdict (ms : Json.Members) : ObjectCheck → Verdict
  | .empty => require ms.isEmpty (.value s!"expected empty object, but got {ms.length} keys")
  | .notEmpty => require (!ms.isEmpty) (.value "expected non-empty object")
  | .containsKey key => require (Json.get? key ms).isSome (missingKey key)
  | .notContainsKey key =>
    require (Json.get? key ms).isNone
      (.value ("expected object not containing key " ++ Text.quote key))
  | .equal expected => compareWith expected (ValueCheck.equalVerdict (some (.object ms)))

def act (ms : Json.Members) : ObjectCheck → Act Chain Unit
  | .equal expected => Act.compare expected (ValueCheck.equalVerdict (some (.object ms)))
  | k => Act.check (k.verdict ms)

/-- The value under a key. -/
def member (ms : Json.Members) (key : String) : Except Failure Json :=
  match Json.get? key ms with
  | some v => .ok v
  | none => .error (missingKey key)

end ObjectCheck

/-! ### Arrays -/

/-- A check on an array. -/
inductive ArrayCheck where
  | notEmpty
  | length (expected : Nat)
  | contains (expected : Json.Datum)
  | notContains (unexpected : Json.Datum)
  | equal (expected : Json.Datum)

namespace ArrayCheck

def containsVerdict (items : List Json) (e : Json) : Verdict :=
  require (items.any (·.eqv e)) (.value ("expected array containing:\n  " ++ e.text))

def notContainsVerdict (items : List Json) (u : Json) : Verdict :=
  require (!items.any (·.eqv u)) (.value ("expected array not containing:\n  " ++ u.text))

def verdict (items : List Json) : ArrayCheck → Verdict
  | .notEmpty => require (!items.isEmpty) (.value "expected non-empty array")
  | .length expected =>
    require (items.length == expected)
      (.value s!"expected array of length {expected}, but got {items.length}")
  | .contains expected => compareWith expected (containsVerdict items)
  | .notContains unexpected => compareWith unexpected (notContainsVerdict items)
  | .equal expected => compareWith expected (ValueCheck.equalVerdict (some (.array items)))

def act (items : List Json) : ArrayCheck → Act Chain Unit
  | .contains expected => Act.compare expected (containsVerdict items)
  | .notContains unexpected => Act.compare unexpected (notContainsVerdict items)
  | .equal expected => Act.compare expected (ValueCheck.equalVerdict (some (.array items)))
  | k => Act.check (k.verdict items)

def outOfBounds (items : List Json) (index : Nat) : Failure :=
  .value s!"array index {index} out of bounds (length {items.length})"

/-- The item at an index. -/
def element (items : List Json) (index : Nat) : Except Failure Json :=
  match items[index]? with
  | some v => .ok v
  | none => .error (outOfBounds items index)

end ArrayCheck

end Attest
