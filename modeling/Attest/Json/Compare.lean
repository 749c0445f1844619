import Attest.Json.Basic

/-!
Comparing JSON numbers by value.

Whole numbers and doubles are compared as the rationals that they are, without rounding.
-/

namespace Attest.Json

/-- A rational: numerator and a denominator that is not zero. -/
structure Rational where
  num : Int
  den : Nat
deriving Repr

def Rational.compare (a b : Rational) : Ordering := Ord.compare (a.num * b.den) (b.num * a.den)

/-- The rational that a finite double is. -/
def Rational.ofDouble? (x : Double) : Option Rational :=
  match x.form with
  | .finite negative significand exponent =>
    let (num, den) := Double.ratio significand exponent
    some ⟨if negative then -(num : Int) else num, den⟩
  | _ => none

/-- The rational that a number is. -/
def rational? : Json → Option Rational
  | .integer n => some ⟨n, 1⟩
  | .double x => Rational.ofDouble? x
  | _ => none

/-- How two numbers compare. -/
def compareNumbers? (a b : Json) : Option Ordering := do
  return (← a.rational?).compare (← b.rational?)

/-- Whether the value is a whole number, however written. -/
def isWhole (v : Json) : Bool :=
  match v.rational? with
  | some r => r.num % r.den == 0
  | none => false

mutual

/-- Equality by which numbers are equal when they count the same. -/
def same : Json → Json → Bool
  | .null, .null => true
  | .bool a, .bool b => a == b
  | .string a, .string b => a == b
  | .array a, .array b => sameItems a b
  | .object a, .object b => sameMembers a b
  | .integer a, b => compareNumbers? (.integer a) b == some .eq
  | .double a, b => compareNumbers? (.double a) b == some .eq
  | _, _ => false

def sameItems : List Json → List Json → Bool
  | [], [] => true
  | a :: as, b :: bs => same a b && sameItems as bs
  | _, _ => false

def sameMembers : List (String × Json) → List (String × Json) → Bool
  | [], [] => true
  | (j, a) :: as, (k, b) :: bs => j == k && same a b && sameMembers as bs
  | _, _ => false

end

end Attest.Json
