import Attest.Http.ContentType
import Attest.Http.Status
import Attest.Json.Reader
import Attest.Subject

/-!
Responses: status, headers and a body that can be read once.

The body comes from a stream. It is read when an assertion first needs it and then kept; a stream
that breaks off fails the chain and counts as empty from then on. A call on a response is an act on
its chain and its body (`Response.act`).
-/

namespace Attest

/-! ### Body streams -/

/-- What a stream does when it is asked for more. -/
inductive Chunk where
  | data (bytes : List UInt8)
  /-- It was interrupted and must be asked again. -/
  | interrupted
  | broken (message : String)
deriving DecidableEq, Repr

/-- All that a stream gives up to its end, which is its last chunk or one without bytes; or the
message with which it breaks off. -/
def contents : List Chunk → Except String (List UInt8)
  | [] => .ok []
  | .data [] :: _ => .ok []
  | .data bytes :: rest => (contents rest).map (bytes ++ ·)
  | .interrupted :: rest => contents rest
  | .broken message :: _ => .error message

/-- What has become of a body. -/
inductive BodyState where
  /-- It has not been read; there may be no stream, or none any more. -/
  | unread (stream : Option (List Chunk))
  | kept (bytes : List UInt8)
deriving DecidableEq, Repr

/-- Whether the stream is still there to be read. -/
def BodyState.hasStream : BodyState → Bool
  | .unread (some _) => true
  | _ => false

namespace BodyState

/-- The chain of a response and its body. -/
abbrev Scene := Chain × BodyState

def readFailure (message : String) : Failure :=
  ⟨.bodyReadFailure, "failed to read response body: " ++ message⟩

def get : Act Scene BodyState := fun s => .pure s s.2

def set (b : BodyState) : Act Scene Unit := fun s => .pure (s.1, b) ()

/-- Keeps the bytes and gives them. -/
def keep (bytes : List UInt8) : Act Scene (List UInt8) := do
  set (.kept bytes)
  return bytes

/-- Reads a stream to its end and keeps what it gave. One that breaks off fails the chain, and then
the body is empty. -/
def drain (stream : List Chunk) : Act Scene (List UInt8) :=
  match contents stream with
  | .ok bytes => do
    Act.log .debug s!"read {bytes.length} body bytes"
    keep bytes
  | .error message => do
    Act.fail (readFailure message)
    keep []

/-- The bytes of the body. If they are not kept yet, the stream is taken away and read. -/
def read : Act Scene (List UInt8) := do
  match ← get with
  | .kept bytes => return bytes
  | .unread stream =>
    set (.unread none)
    match stream with
    | some stream => drain stream
    | none => keep []

end BodyState

/-! ### Responses -/

structure Response where
  status : Status
  headers : Headers
  body : BodyState
  previewLimit : Nat := defaultPreview
deriving DecidableEq, Repr

/-- A call on a response. -/
inductive ResponseCall where
  | status (expected : Status)
  | noContent
  | contentType (mediaType : String)
  | contentTypeCharset (mediaType charset : String)
  | headers
  | header (name : String)
  | body
  | text
  | json
deriving DecidableEq, Repr

namespace Response

/-- The first value of the content type header, empty if there is none. -/
def contentTypeHeader (r : Response) : String := (r.headers.first? "content-type").getD ""

def contentType (r : Response) : ContentType := .parse r.contentTypeHeader

/-- Whether the text has no character other than white space. -/
def isBlank (s : String) : Bool := s.toList.all Unicode.isWhiteSpace

def typeMismatch (expected what actual : String) : Failure :=
  ⟨.contentTypeMismatch, "expected \"Content-Type\" header with " ++ Text.quote expected ++ " "
    ++ what ++ ",\nbut got " ++ actual⟩

/-- The check of the media type and, if one is expected, of the charset. -/
def contentTypeVerdict (r : Response) (mediaType : String) (charset : Option String) : Verdict :=
  let ct := r.contentType
  if ct.mediaType ≠ mediaType then
    let actual :=
      if ct.mediaType.isEmpty && !isBlank r.contentTypeHeader then
        "unparsable header " ++ Text.quote r.contentTypeHeader
      else Text.quote ct.mediaType
    some (typeMismatch mediaType "media type" actual)
  else
    match charset with
    | none => none
    | some expected =>
      require (Text.sameIgnoringCase ct.charsetText expected)
        (typeMismatch expected "charset" (Text.quote ct.charsetText))

/-- The check that there is no content: what there is of it, paragraph by paragraph. -/
def noContentProblems (r : Response) (bytes : List UInt8) : List String :=
  let header := r.contentTypeHeader
  (if header.isEmpty then [] else
    ["expected missing or empty \"Content-Type\" header, but got:\n  " ++ Text.quote header]) ++
  (if bytes.isEmpty then [] else
    ["expected empty body, but got:\n  " ++ preview bytes r.previewLimit])

def unwantedContent (problems : List String) : Failure :=
  ⟨.contentAbsenceViolation, "\n\n".intercalate problems⟩

def charsetRefused (charset : String) : Failure :=
  ⟨.unsupportedCharset,
    "expected \"Content-Type\" header with \"utf-8\" or empty charset, but got:\n  "
      ++ Text.quote charset⟩

/-- The JSON document that the bytes are. -/
def readJson (r : Response) (bytes : List UInt8) : Except Failure Json :=
  match readText bytes none with
  | .error f => .error f
  | .ok text =>
    match Json.read text with
    | .ok v => .ok v
    | .error e => .error ⟨.decodeFailure, "can't decode body as JSON: " ++ e.message
        ++ "\n\nbody:\n  " ++ preview bytes r.previewLimit⟩

/-- Checks the content type, and says whether it is as expected. -/
def checkContentType (r : Response) (mediaType : String) (charset : Option String) :
    Act Chain Bool := do
  if ← Act.isFailed then return false
  match r.contentTypeVerdict mediaType charset with
  | some f => do
    Act.fail f
    return false
  | none => return true

/-- Fails unless there is no content. -/
def actNoContent (r : Response) : Act BodyState.Scene Reply := do
  if ← Act.isFailed then return .nothing
  let bytes ← BodyState.read
  if ← Act.isFailed then return .nothing
  match r.noContentProblems bytes with
  | [] => return .nothing
  | problems => do
    Act.fail (unwantedContent problems)
    return .nothing

/-- The body as text, which its content type must announce. -/
def actText (r : Response) : Act BodyState.Scene Reply := do
  if ← r.checkContentType "text/plain" none then
    let bytes ← BodyState.read
    if ← Act.isFailed then return .subject Subject.noText
    match readText bytes r.contentType.charset with
    | .ok text => return .subject (.text text)
    | .error f => do
      Act.fail f
      return .subject Subject.noText
  else return .subject Subject.noText

/-- The body as a JSON document, which its content type must announce, in UTF-8. -/
def actJson (r : Response) : Act BodyState.Scene Reply := do
  if ← r.checkContentType "application/json" none then
    if r.contentType.isUtf8 then
      let bytes ← BodyState.read
      if ← Act.isFailed then return .subject Subject.noValue
      match r.readJson bytes with
      | .ok v => return .subject (.value (some v))
      | .error f => do
        Act.fail f
        return .subject Subject.noValue
    else
      Act.fail (charsetRefused r.contentType.charsetText)
      return .subject Subject.noValue
  else return .subject Subject.noValue

/-- The act of a call, on the chain of the response and its body. -/
def act (r : Response) : ResponseCall → Act BodyState.Scene Reply
  | .status expected => do
    Act.check (require (r.status = expected)
      (.mismatch .statusMismatch "status" expected.text r.status.text))
    return .nothing
  | .noContent => r.actNoContent
  | .contentType mediaType => do
    let _ ← r.checkContentType mediaType none
    return .nothing
  | .contentTypeCharset mediaType charset => do
    let _ ← r.checkContentType mediaType (some charset)
    return .nothing
  | .headers => do
    if ← Act.isFailed then return .subject Subject.noHeaders
    return .subject (.headers r.headers)
  | .header name => do
    if ← Act.isFailed then return .subject Subject.noText
    return .subject (.text ((r.headers.first? name).getD ""))
  | .body => do
    if ← Act.isFailed then return .subject Subject.noBody
    let bytes ← BodyState.read
    return .subject (.body bytes r.previewLimit)
  | .text => r.actText
  | .json => r.actJson

/-- A call on a response whose chain is `c`. -/
def call (r : Response) (c : Chain) (k : ResponseCall) : Effect (Chain × Response) Reply :=
  let e := r.act k (c, r.body)
  ⟨(e.state.1, { r with body := e.state.2 }), e.events, e.outcome⟩

end Response

end Attest
