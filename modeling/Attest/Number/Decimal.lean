import Attest.Number.Double

/-!
Decimal text of doubles.

A finite double is written with the fewest digits to which it is the nearest double, and among those
with the digits nearest to its value. `shortest` finds them by exact arithmetic: on the grid of
decimals with one digit, then two, and so on, it tries the two neighbours of the value. How the
digits are laid out (where powers of ten begin, whether a whole number keeps its point) is a
`Layout`, one for each kind of text.
-/

namespace Attest

/-- `digits · 10 ^ exponent`. -/
structure Decimal where
  digits : Nat
  exponent : Int
deriving DecidableEq, Repr

namespace Decimal

/-- The power of ten `e` with `10 ^ e ≤ num / den < 10 ^ (e + 1)`. -/
def leadingPower (num den : Nat) : Int :=
  if den ≤ num then ((Nat.toDigits 10 (num / den)).length : Int) - 1
  else -((Nat.toDigits 10 ((den + num - 1) / num - 1)).length : Int)

/-- The reals that round to a double, as `low / den` to `high / den` around `value / den`; the ends
belong to it when the significand is even. -/
structure Interval where
  low : Nat
  value : Nat
  high : Nat
  den : Nat
  closed : Bool

/-- Below the least significand of a binade the neighbour is half as far. -/
def interval (significand : Nat) (exponent : Int) : Interval :=
  let below := if significand = pow2 52 ∧ -1074 < exponent then 1 else 2
  let (unit, den) := Double.ratio 1 (exponent - 2)
  { low := (4 * significand - below) * unit
    value := 4 * significand * unit
    high := (4 * significand + 2) * unit
    den := den
    closed := significand % 2 = 0 }

/-- Whether `count · 10 ^ power` lies in the interval. -/
def Interval.admits (i : Interval) (count : Nat) (power : Int) : Bool :=
  let scaled := count * i.den * pow10 power.toNat
  let shrink := pow10 (-power).toNat
  if i.closed then i.low * shrink ≤ scaled && scaled ≤ i.high * shrink
  else i.low * shrink < scaled && scaled < i.high * shrink

/-- The decimal on the grid of `10 ^ power` that rounds to the double, the nearer one when both
neighbours of the value do. -/
def Interval.onGrid? (i : Interval) (power : Int) : Option Decimal :=
  let num := i.value * pow10 (-power).toNat
  let den := i.den * pow10 power.toNat
  let below := num / den
  let nearest := Double.roundDiv num den
  let other := if nearest = below then below + 1 else below
  if i.admits nearest power then some ⟨nearest, power⟩
  else if i.admits other power then some ⟨other, power⟩
  else none

/-- The first hit on the grids of ever more digits; `count` grids are left. -/
def Interval.search (i : Interval) : (count : Nat) → (power : Int) → Decimal
  | 0, power => ⟨i.value / i.den, power⟩
  | count + 1, power => (i.onGrid? power).getD (i.search count (power - 1))

/-- Moves trailing zeros into the exponent. -/
def trim : (fuel : Nat) → Decimal → Decimal
  | 0, d => d
  | fuel + 1, d =>
    if d.digits ≠ 0 ∧ d.digits % 10 = 0 then trim fuel ⟨d.digits / 10, d.exponent + 1⟩ else d

/-- The shortest decimal that rounds to `significand · 2 ^ exponent`, which is not zero. -/
def shortest (significand : Nat) (exponent : Int) : Decimal :=
  let i := interval significand exponent
  trim 20 (i.search 17 (leadingPower i.value i.den))

/-- How the digits of a number are laid out. -/
structure Layout where
  /-- The powers of ten of the first digit that are written without an exponent: from the first
  number up to, not including, the second. None: all. -/
  positional : Option (Int × Int)
  /-- Whether a whole number keeps a point and a zero. -/
  wholeMark : Bool
  /-- Whether an exponent that is not negative has a plus sign. -/
  plusSign : Bool
  notANumber : String := "NaN"
  infinite : String := "inf"
deriving Repr

/-- The digits with a point after `point` of them, zeros filled in on either side. -/
def positionalText (wholeMark : Bool) (digits : List Char) (point : Int) : String :=
  let count : Int := digits.length
  String.ofList <|
    if point ≤ 0 then '0' :: '.' :: (List.replicate (-point).toNat '0' ++ digits)
    else if count ≤ point then
      digits ++ List.replicate (point - count).toNat '0' ++ if wholeMark then ['.', '0'] else []
    else digits.take point.toNat ++ '.' :: digits.drop point.toNat

/-- The first digit, the others after a point, and the exponent. -/
def exponentText (plusSign : Bool) (digits : List Char) (power : Int) : String :=
  let fraction := if 1 < digits.length then '.' :: digits.drop 1 else []
  let sign := if power < 0 then "-" else if plusSign then "+" else ""
  String.ofList (digits.take 1 ++ fraction) ++ "e" ++ sign ++ toString power.natAbs

def Layout.magnitude (l : Layout) (significand : Nat) (exponent : Int) : String :=
  if significand = 0 then if l.wholeMark then "0.0" else "0"
  else
    let d := shortest significand exponent
    let digits := Nat.toDigits 10 d.digits
    let power := d.exponent + digits.length - 1
    let fits := match l.positional with
      | none => true
      | some (least, below) => least ≤ power && power < below
    if fits then positionalText l.wholeMark digits (power + 1)
    else exponentText l.plusSign digits power

/-- The text of a double. -/
def Layout.text (l : Layout) (x : Double) : String :=
  match x.form with
  | .nan => l.notANumber
  | .infinite negative => (if negative then "-" else "") ++ l.infinite
  | .finite negative significand exponent =>
    (if negative then "-" else "") ++ l.magnitude significand exponent

/-- Numbers in messages: every digit, no exponent, no point on whole numbers. -/
def message : Layout := { positional := none, wholeMark := false, plusSign := false }

/-- Numbers in the description of an object: powers of ten below 0.0001 and from 10 ^ 16 on. -/
def description : Layout := { positional := some (-4, 16), wholeMark := true, plusSign := false }

/-- Numbers in JSON text: positional from 0.00001 up to, not including, 10 ^ 16. -/
def json : Layout := { positional := some (-5, 16), wholeMark := true, plusSign := true }

end Decimal

end Attest
