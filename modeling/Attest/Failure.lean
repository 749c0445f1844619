import Attest.Text.Quoted
import Attest.Text.Utf8

/-!
Failures: what an assertion reports when it does not hold.

A failure has a kind and a message; its text, `<kind>: <message>`, is what reporters get. Bytes are
quoted in messages up to a limit (`preview`), followed by the number of those left out.
-/

namespace Attest

/-- What kind of check did not hold. -/
inductive FailureKind where
  | statusMismatch
  | contentAbsenceViolation
  | contentTypeMismatch
  | unsupportedCharset
  | decodeFailure
  | bodyReadFailure
  | valueMismatch
deriving DecidableEq, Repr, Inhabited

namespace FailureKind

def all : List FailureKind :=
  [.statusMismatch, .contentAbsenceViolation, .contentTypeMismatch, .unsupportedCharset,
    .decodeFailure, .bodyReadFailure, .valueMismatch]

/-- The words that begin a report. -/
def label : FailureKind → String
  | .statusMismatch => "status mismatch"
  | .contentAbsenceViolation => "unexpected content"
  | .contentTypeMismatch => "content type mismatch"
  | .unsupportedCharset => "unsupported charset"
  | .decodeFailure => "decode failure"
  | .bodyReadFailure => "body read failure"
  | .valueMismatch => "value mismatch"

/-- The name by which descriptions and configurations know the kind. -/
def name : FailureKind → String
  | .statusMismatch => "StatusMismatch"
  | .contentAbsenceViolation => "ContentAbsenceViolation"
  | .contentTypeMismatch => "ContentTypeMismatch"
  | .unsupportedCharset => "UnsupportedCharset"
  | .decodeFailure => "DecodeFailure"
  | .bodyReadFailure => "BodyReadFailure"
  | .valueMismatch => "ValueMismatch"

def ofName? (name : String) : Option FailureKind := all.find? fun k => k.name = name

end FailureKind

/-- One assertion that did not hold. -/
structure Failure where
  kind : FailureKind
  message : String
deriving DecidableEq, Repr

namespace Failure

/-- A failure of a value's check. -/
def value (message : String) : Failure := ⟨.valueMismatch, message⟩

/-- What was expected of `what`, and what there was, each on its own line. -/
def mismatchMessage (what expected actual : String) : String :=
  "expected " ++ what ++ " equal to:\n  " ++ expected ++ "\n\nbut got:\n  " ++ actual

def mismatch (kind : FailureKind) (what expected actual : String) : Failure :=
  ⟨kind, mismatchMessage what expected actual⟩

/-- What a reporter gets. -/
def text (f : Failure) : String := f.kind.label ++ ": " ++ f.message

end Failure

/-- What a check found: nothing, or a failure. -/
abbrev Verdict := Option Failure

/-- The verdict of a check that holds when `ok` does. -/
def require (ok : Bool) (failure : Failure) : Verdict := if ok then none else some failure

/-- The default number of body bytes that a message quotes. -/
def defaultPreview : Nat := 256

/-- The first `limit` bytes quoted as text, and how many more there are. -/
def preview (bytes : List UInt8) (limit : Nat) : String :=
  if bytes.length ≤ limit then Text.quote (Text.Utf8.decodeLossy bytes)
  else
    let more := bytes.length - limit
    Text.quote (Text.Utf8.decodeLossy (bytes.take limit)) ++ s!"... ({more} more bytes)"

end Attest
