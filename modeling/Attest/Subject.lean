import Attest.Act
import Attest.Subject.Body
import Attest.Subject.Headers
import Attest.Subject.Number
import Attest.Subject.Text
import Attest.Subject.Value

/-!
Subjects: the things that assertions are made about, once they have been taken from a response.

A subject is plain data; the chain that it holds is kept elsewhere. A call on it is an act on that
chain (`Subject.act`): it checks something, or hands out another subject, or only tells something.
-/

namespace Attest

/-- What assertions are made about. -/
inductive Subject where
  | headers (h : Headers)
  | text (s : String)
  | body (bytes : List UInt8) (limit : Nat)
  | value (v : OptJson)
  | object (members : Json.Members)
  | array (items : List Json)
  | number (x : Double)
  | boolean (b : Bool)
deriving Inhabited

/-- A call on a subject. -/
inductive Call where
  | checkHeaders (c : HeadersCheck)
  | headerValue (name : String)
  | headerValues (name : String)
  | checkText (c : TextCheck)
  | checkBody (c : BodyCheck)
  | limitPreview (limit : Nat)
  | checkValue (c : ValueCheck)
  | toObject
  | toArray
  | toText
  | toNumber
  | toBoolean
  | checkObject (c : ObjectCheck)
  | keys
  | member (key : String)
  | checkArray (c : ArrayCheck)
  | element (index : Nat)
  | checkNumber (c : NumberCheck)
  | checkBoolean (expected : Bool)

/-- What a call hands out. -/
inductive Reply where
  | nothing
  | subject (s : Subject)
  | texts (ts : List String)

namespace Subject

/-! ### Placeholders -/

def noHeaders : Subject := .headers .empty
def noText : Subject := .text ""
def noBody : Subject := .body [] defaultPreview
def noValue : Subject := .value none
def noObject : Subject := .object []
def noArray : Subject := .array []
def noNumber : Subject := .number .zero
def noBoolean : Subject := .boolean false

/-- The act of a check. -/
def asserting (m : Act Chain Unit) : Act Chain Reply := do
  m
  return .nothing

/-- The act of a call that hands out a subject. -/
def handing (m : Act Chain Subject) : Act Chain Reply := do return .subject (← m)

/-- Hands out the part of a value as a subject, or the placeholder where there is none. -/
def part {α : Type} (wanted : String) (pick : Json → Option α) (wrap : α → Subject)
    (placeholder : Subject) (v : OptJson) : Act Chain Subject := do
  match ← Act.typed wanted pick v with
  | some a => return wrap a
  | none => return placeholder

/-- The act of a call. None: the subject does not have it. -/
def act : Subject → Call → Option (Act Chain Reply)
  | .headers h, .checkHeaders c => some (asserting (Act.check (c.verdict h)))
  | .headers h, .headerValue name =>
    some (handing (Act.obtain ((HeadersCheck.firstValue h name).map .text) noText))
  | .headers h, .headerValues name => some (return .texts (h.texts name))
  | .text s, .checkText c => some (asserting (c.act s))
  | .body bytes limit, .checkBody c => some (asserting (Act.check (c.verdict bytes limit)))
  | .body bytes _, .limitPreview limit => some (return .subject (.body bytes limit))
  | .value v, .checkValue c => some (asserting (c.act v))
  | .value v, .toObject => some (handing (part "object" Json.members? .object noObject v))
  | .value v, .toArray => some (handing (part "array" Json.items? .array noArray v))
  | .value v, .toText => some (handing (part "string" Json.string? .text noText v))
  | .value v, .toNumber => some (handing (part "number" Json.toDouble? .number noNumber v))
  | .value v, .toBoolean => some (handing (part "boolean" Json.bool? .boolean noBoolean v))
  | .object ms, .checkObject c => some (asserting (c.act ms))
  | .object ms, .keys => some (return .subject (.array ((Json.keys ms).map .string)))
  | .object ms, .member key =>
    some (handing (Act.obtain ((ObjectCheck.member ms key).map fun v => .value (some v)) noValue))
  | .array items, .checkArray c => some (asserting (c.act items))
  | .array items, .element index =>
    some (handing
      (Act.obtain ((ArrayCheck.element items index).map fun v => .value (some v)) noValue))
  | .number x, .checkNumber c => some (asserting (Act.check (c.verdict x)))
  | .boolean b, .checkBoolean expected =>
    some (asserting (Act.check (booleanVerdict b expected)))
  | _, _ => none

end Subject

end Attest
