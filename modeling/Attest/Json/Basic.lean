import Attest.Number.Decimal

/-!
JSON values.

A number is a whole number, when it was written as one and fits 64 bits, or a double; `1` and `1.0`
are different values. The members of an object are kept in increasing order of their names, each
name once: `insert` keeps both, `ofMembers` builds such a list from members in any order, the last
of equal names winning, and `Json.Sorted` says that a value has the form throughout.
-/

namespace Attest

inductive Json where
  | null
  | bool (b : Bool)
  | integer (n : Int)
  | double (x : Double)
  | string (s : String)
  | array (items : List Json)
  | object (members : List (String × Json))
deriving Inhabited, Repr

namespace Json

/-! ### Members of an object -/

/-- Members in increasing order of their names. -/
abbrev Members := List (String × Json)

/-- The value under `key`. -/
def get? (key : String) : Members → Option Json
  | [] => none
  | (k, v) :: rest => if k = key then some v else get? key rest

/-- Puts `value` under `key`, in place of what was there. -/
def insert (key : String) (value : Json) : Members → Members
  | [] => [(key, value)]
  | (k, v) :: rest =>
    if key < k then (key, value) :: (k, v) :: rest
    else if key = k then (key, value) :: rest
    else (k, v) :: insert key value rest

/-- The members in order, of equal names the last. -/
def ofMembers (ms : List (String × Json)) : Members :=
  ms.foldl (fun acc m => insert m.1 m.2 acc) []

def keys (ms : Members) : List String := ms.map (·.1)

/-- The names increase strictly. -/
def Increasing : List String → Prop
  | [] => True
  | [_] => True
  | a :: b :: rest => a < b ∧ Increasing (b :: rest)

mutual

/-- Every object inside has its members in order, each name once. -/
def Sorted : Json → Prop
  | .array items => SortedItems items
  | .object members => Increasing (keys members) ∧ SortedMembers members
  | _ => True

def SortedItems : List Json → Prop
  | [] => True
  | v :: rest => Sorted v ∧ SortedItems rest

def SortedMembers : List (String × Json) → Prop
  | [] => True
  | (_, v) :: rest => Sorted v ∧ SortedMembers rest

end

mutual

/-- How many arrays and objects lie around the innermost value. -/
def depth : Json → Nat
  | .array items => depthItems items + 1
  | .object members => depthMembers members + 1
  | _ => 0

def depthItems : List Json → Nat
  | [] => 0
  | v :: rest => max (depth v) (depthItems rest)

def depthMembers : List (String × Json) → Nat
  | [] => 0
  | (_, v) :: rest => max (depth v) (depthMembers rest)

end

mutual

/-- Equality of values: whole numbers and doubles differ even where they count the same, and doubles
compare as numbers, so the two zeros are equal. -/
def eqv : Json → Json → Bool
  | .null, .null => true
  | .bool a, .bool b => a == b
  | .integer a, .integer b => a == b
  | .double a, .double b => a.eqv b
  | .string a, .string b => a == b
  | .array a, .array b => eqvItems a b
  | .object a, .object b => eqvMembers a b
  | _, _ => false

def eqvItems : List Json → List Json → Bool
  | [], [] => true
  | a :: as, b :: bs => eqv a b && eqvItems as bs
  | _, _ => false

def eqvMembers : List (String × Json) → List (String × Json) → Bool
  | [], [] => true
  | (j, a) :: as, (k, b) :: bs => j == k && eqv a b && eqvMembers as bs
  | _, _ => false

end

/-- The number as a double. -/
def toDouble? : Json → Option Double
  | .integer n => some (Double.ofInt n)
  | .double x => some x
  | _ => none

/-- The least whole number that is kept as one. -/
def leastInteger : Int := -(pow2 63 : Nat)

/-- The greatest whole number that is kept as one. -/
def greatestInteger : Int := (pow2 64 : Nat) - 1

/-- A whole number where it fits, else the nearest double. -/
def ofInt (n : Int) : Json :=
  if leastInteger ≤ n ∧ n ≤ greatestInteger then .integer n else .double (Double.ofInt n)

end Json

end Attest
