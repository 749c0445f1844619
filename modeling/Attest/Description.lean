import Attest.Settings

/-!
Descriptions: what a thing shows when it is printed while looking for a fault.

A description names the kind of the thing and its parts, `Name { part: value, other: value }`; text
is quoted, and JSON values name the kind of each of their parts.
-/

namespace Attest

namespace Describe

/-- A name with its parts. -/
def parts (name : String) (fields : List (String × String)) : String :=
  name ++ " \x7b " ++ ", ".intercalate (fields.map fun (n, v) => n ++ ": " ++ v) ++ " \x7d"

/-- A value that may be missing. -/
def optional : Option String → String
  | none => "None"
  | some v => "Some(" ++ v ++ ")"

def list (items : List String) : String := "[" ++ ", ".intercalate items ++ "]"

end Describe

open Describe

def Failure.description (f : Failure) : String :=
  parts "Failure" [("kind", f.kind.name), ("message", Text.quote f.message)]

def Chain.description (c : Chain) : String :=
  parts "Chain" [("failed", toString c.failed), ("kind", optional (c.kind.map (·.name)))]

def ContentType.description (ct : ContentType) : String :=
  parts "ContentType" [("media_type", Text.quote ct.mediaType),
    ("charset", optional (ct.charset.map Text.quote))]

/-- The description of a recording. -/
def describeRecording (messages : List String) : String :=
  parts "RecordingReporter" [("messages",
    parts "RefCell" [("value", list (messages.map Text.quote))])]

/-- The description of a reporter; that of one that records shows the messages so far. -/
def Reporter.description (messages : List String) : Reporter → String
  | .recording => describeRecording messages
  | .panic => "PanicReporter"
  | .log => "LogReporter"
  | .console c => parts "ConsoleReporter" [("enable_timestamps", toString c.timestamps),
      ("color", c.color.name)]
  | .custom name => name

namespace Response

/-- The description of what was received, without that of the assertions on it. -/
def rawDescription (r : Response) : String :=
  parts "RawResponse" [("status", toString r.status.code), ("headers", r.headers.description),
    ("has_body", toString r.body.hasStream)]

def bodyDescription : BodyState → String
  | .unread _ => "OnceCell(<uninit>)"
  | .kept bytes => "OnceCell(" ++ Text.quoteBytes bytes ++ ")"

def description (r : Response) (c : Chain) : String :=
  parts "Response" [("chain", c.description), ("raw", r.rawDescription),
    ("body", bodyDescription r.body), ("preview_limit", toString r.previewLimit)]

end Response

/-- The members of an object with their descriptions. -/
def describeMap (ms : Json.Members) : String :=
  "\x7b" ++ ", ".intercalate (Json.describeMembers ms) ++ "\x7d"

/-- The description of a subject whose chain is `c`. -/
def Subject.description (s : Subject) (c : Chain) : String :=
  let about (name : String) (fields : List (String × String)) : String :=
    parts name (("chain", c.description) :: fields)
  match s with
  | .headers h => about "Headers" [("headers", h.description)]
  | .text s => about "StringAssert" [("value", Text.quote s)]
  | .body bytes limit =>
    about "Body" [("bytes", Text.quoteBytes bytes), ("preview_limit", toString limit)]
  | .value v => about "Value" [("value", optional (v.map (·.description)))]
  | .object ms => about "Object" [("map", describeMap ms)]
  | .array items => about "Array" [("items", list (Json.describeItems items))]
  | .number x => about "Number" [("value", Decimal.description.text x)]
  | .boolean b => about "Boolean" [("value", toString b)]

end Attest
