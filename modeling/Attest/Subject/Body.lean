import Attest.Failure
import Attest.Text.Case

/-!
Checks on the bytes of a body. Messages quote at most `limit` bytes of each side.
-/

namespace Attest

/-- A check on bytes. -/
inductive BodyCheck where
  | empty
  | notEmpty
  | equal (expected : List UInt8)
  | length (expected : Nat)
  | contains (needle : List UInt8)
deriving DecidableEq, Repr

namespace BodyCheck

/-- What the bytes lack to pass, after `words`, and the bytes. -/
def contrast (words : String) (limit : Nat) (expected actual : List UInt8) : String :=
  "expected body " ++ words ++ ":\n  " ++ preview expected limit ++ "\n\nbut got:\n  "
    ++ preview actual limit

def verdict (bytes : List UInt8) (limit : Nat) : BodyCheck → Verdict
  | .empty =>
    require bytes.isEmpty (.value ("expected empty body, but got:\n  " ++ preview bytes limit))
  | .notEmpty => require (!bytes.isEmpty) (.value "expected non-empty body")
  | .equal expected =>
    require (bytes == expected) (.value (contrast "equal to" limit expected bytes))
  | .length expected =>
    require (bytes.length == expected)
      (.value s!"expected body length {expected}, but got {bytes.length}")
  | .contains needle =>
    require (Text.containsList needle bytes) (.value (contrast "containing" limit needle bytes))

end BodyCheck

end Attest
