import Attest.Failure
import Attest.Http.Headers

/-!
Checks on headers.
-/

namespace Attest

/-- A check on headers. -/
inductive HeadersCheck where
  | equal (expected : Headers)
  | containsKey (name : String)
  | notContainsKey (name : String)
deriving DecidableEq, Repr

namespace HeadersCheck

def missingHeader (name : String) : Failure :=
  .value ("expected header " ++ Text.quote name ++ " to be present")

def verdict (h : Headers) : HeadersCheck → Verdict
  | .equal expected =>
    require (h.equal expected)
      (.value (Failure.mismatchMessage "headers" expected.description h.description))
  | .containsKey name => require (h.contains name) (missingHeader name)
  | .notContainsKey name =>
    require (!h.contains name) (.value ("expected header " ++ Text.quote name ++ " to be absent"))

/-- The first value of a header. -/
def firstValue (h : Headers) (name : String) : Except Failure String :=
  match h.first? name with
  | some s => .ok s
  | none => .error (missingHeader name)

end HeadersCheck

end Attest
