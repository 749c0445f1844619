import Attest.Failure
import Attest.Number.Decimal

/-!
Checks on numbers and booleans.
-/

namespace Attest

/-- How a number must compare. -/
inductive Relation where
  | equal
  | notEqual
  | greater
  | greaterOrEqual
  | less
  | lessOrEqual
deriving DecidableEq, Repr

namespace Relation

def words : Relation → String
  | .equal => "equal to"
  | .notEqual => "not equal to"
  | .greater => "greater than"
  | .greaterOrEqual => "greater than or equal to"
  | .less => "less than"
  | .lessOrEqual => "less than or equal to"

/-- What is no number is unequal to everything, and in no other relation. -/
def holds : Relation → Double → Double → Bool
  | .equal, x, y => x.eqv y
  | .notEqual, x, y => !x.eqv y
  | .greater, x, y => y.lt x
  | .greaterOrEqual, x, y => y.le x
  | .less, x, y => x.lt y
  | .lessOrEqual, x, y => x.le y

end Relation

/-- A check on a number. -/
inductive NumberCheck where
  | compare (relation : Relation) (other : Double)
  /-- Both ends are allowed. -/
  | inRange (least greatest : Double)
deriving DecidableEq, Repr

namespace NumberCheck

def shown (x : Double) : String := Decimal.message.text x

def verdict (x : Double) : NumberCheck → Verdict
  | .compare relation other =>
    require (relation.holds x other)
      (.value ("expected number " ++ relation.words ++ " " ++ shown other ++ ", but got "
        ++ shown x))
  | .inRange least greatest =>
    require (least.le x && x.le greatest)
      (.value ("expected number in range [" ++ shown least ++ ", " ++ shown greatest
        ++ "], but got " ++ shown x))

end NumberCheck

/-- The check that a boolean is the one expected. -/
def booleanVerdict (b expected : Bool) : Verdict :=
  require (b == expected) (.value s!"expected {expected}, but got {b}")

end Attest
