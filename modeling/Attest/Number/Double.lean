import Attest.Number.Power

/-!
Numbers in the 64-bit binary floating-point format.

A `Double` is its 64 bits; `Double.form` reads them as a sign, a whole significand and a power of
two. Everything that rounds goes through `ofRatio`, the nearest double to a quotient of naturals (a
tie goes to the even neighbour), so converting integers, multiplying, dividing and narrowing to
single precision are exact arithmetic followed by one rounding. A decimal takes several of these
steps (`ofDecimal?`) and need not come out as the double nearest to it.
-/

namespace Attest

structure Double where
  bits : UInt64
deriving DecidableEq, Repr, Inhabited

namespace Double

/-- What the bits stand for; a finite value is `± significand · 2 ^ exponent`. -/
inductive Form where
  | nan
  | infinite (negative : Bool)
  | finite (negative : Bool) (significand : Nat) (exponent : Int)
deriving DecidableEq, Repr

def negative (x : Double) : Bool := pow2 63 ≤ x.bits.toNat

/-- The bits without the sign: they order like the absolute values. -/
def magnitude (x : Double) : Nat := x.bits.toNat % pow2 63

def infinityBits : Nat := 0x7FF * pow2 52

def form (x : Double) : Form :=
  let biased : Nat := x.magnitude / pow2 52
  let fraction : Nat := x.magnitude % pow2 52
  if biased = 0x7FF then
    if fraction = 0 then .infinite x.negative else .nan
  else if biased = 0 then .finite x.negative fraction (-1074)
  else .finite x.negative (pow2 52 + fraction) ((biased : Int) - 1075)

def isNaN (x : Double) : Bool := infinityBits < x.magnitude

def isFinite (x : Double) : Bool := x.magnitude < infinityBits

def ofParts (negative : Bool) (magnitude : Nat) : Double :=
  ⟨UInt64.ofNat (magnitude + if negative then pow2 63 else 0)⟩

def zero : Double := ⟨0⟩
def nan : Double := ofParts false (infinityBits + pow2 51)
def infinity (negative : Bool) : Double := ofParts negative infinityBits

/-! ### Order -/

/-- An integer that orders like the value; both zeros have the same. -/
def orderKey (x : Double) : Int := if x.negative then -(x.magnitude : Int) else x.magnitude

/-- Numeric equality: the zeros are equal, and what is not a number equals nothing. -/
def eqv (x y : Double) : Bool := !x.isNaN && !y.isNaN && x.orderKey == y.orderKey

def lt (x y : Double) : Bool := !x.isNaN && !y.isNaN && decide (x.orderKey < y.orderKey)

def le (x y : Double) : Bool := !x.isNaN && !y.isNaN && decide (x.orderKey ≤ y.orderKey)

/-! ### Rounding -/

/-- The quotient rounded to a whole number, a tie to the even one. -/
def roundDiv (num den : Nat) : Nat :=
  let q := num / den
  let r := num % den
  if 2 * r < den then q
  else if den < 2 * r then q + 1
  else if q % 2 = 0 then q else q + 1

/-- `num / den · 2 ^ -shift`, rounded. -/
def scaledRound (num den : Nat) (shift : Int) : Nat :=
  if 0 ≤ shift then roundDiv num (den * pow2 shift.toNat)
  else roundDiv (num * pow2 (-shift).toNat) den

/-- The power of two that gives `num / den` a whole part of exactly `digits` binary digits, but not
below `least`. -/
def scaleOf (digits : Nat) (least : Int) (num den : Nat) : Int :=
  let guess : Int := (num.log2 : Int) - den.log2 - digits
  let tooSmall :=
    if 0 ≤ guess then den * pow2 (guess.toNat + digits) ≤ num
    else den * pow2 digits ≤ num * pow2 (-guess).toNat
  max least (if tooSmall then guess + 1 else guess)

/-- The double nearest to `num / den`: a tie goes to the even neighbour, and what rounds past the
largest finite one is infinite. Counting significands through all binades in order gives the bits,
so a significand that rounds up to the next binade needs no care. -/
def ofRatio (negative : Bool) (num den : Nat) : Double :=
  if num = 0 then ofParts negative 0
  else
    let scale := scaleOf 53 (-1074) num den
    let magnitude := (scale + 1074).toNat * pow2 52 + scaledRound num den scale
    ofParts negative (min magnitude infinityBits)

def ofNat (n : Nat) : Double := ofRatio false n 1

def ofInt (n : Int) : Double := ofRatio (n < 0) n.natAbs 1

/-- The absolute value of a finite double as a quotient of naturals. -/
def ratio (significand : Nat) (exponent : Int) : Nat × Nat :=
  if 0 ≤ exponent then (significand * pow2 exponent.toNat, 1)
  else (significand, pow2 (-exponent).toNat)

/-- Rounds to the nearest number of the 32-bit format, which is again a double. -/
def toSingle (x : Double) : Double :=
  match x.form with
  | .finite negative significand exponent =>
    if significand = 0 then x
    else
      let (num, den) := ratio significand exponent
      let scale := scaleOf 24 (-149) num den
      let rounded := scaledRound num den scale
      let (top, bottom) := ratio rounded scale
      if pow2 128 ≤ top / bottom then infinity negative else ofRatio negative top bottom
  | _ => x

/-! ### Products, quotients and whole numbers -/

/-- The product; whatever involves an infinity or no number at all is worked out by its sign. -/
def mul (x y : Double) : Double :=
  match x.form, y.form with
  | .finite a m e, .finite b n f =>
    let (p, q) := ratio m e
    let (r, s) := ratio n f
    ofRatio (a != b) (p * r) (q * s)
  | .infinite a, .finite b n _ => if n = 0 then nan else infinity (a != b)
  | .finite a m _, .infinite b => if m = 0 then nan else infinity (a != b)
  | .infinite a, .infinite b => infinity (a != b)
  | _, _ => nan

/-- The quotient; whatever involves an infinity, a zero divisor or no number at all is worked out by
its sign. -/
def div (x y : Double) : Double :=
  match x.form, y.form with
  | .finite a m e, .finite b n f =>
    if n = 0 then if m = 0 then nan else infinity (a != b)
    else
      let (p, q) := ratio m e
      let (r, s) := ratio n f
      ofRatio (a != b) (p * s) (q * r)
  | .infinite a, .finite b _ _ => infinity (a != b)
  | .finite a _ _, .infinite b => ofParts (a != b) 0
  | _, _ => nan

/-! ### Decimals -/

/-- The greatest power of ten that is a double. -/
def greatestPower : Nat := 308

/-- The double nearest to a power of ten. -/
def powerOfTen (n : Nat) : Double := ofNat (pow10 n)

/-- Divides by the greatest power of ten so many times, then by ten to the power `last`. A zero is
not divided further. -/
def scaleDown (last : Nat) : (times : Nat) → Double → Double
  | 0, x => x.div (powerOfTen last)
  | times + 1, x =>
    if x = zero then x else scaleDown last times (x.div (powerOfTen greatestPower))

/-- The double for `significand · 10 ^ exponent`: the significand is rounded, and so are its product
with a power of ten and each of the quotients that a negative exponent takes. None: the product is
past the largest double. -/
def ofDecimal? (significand : Nat) (exponent : Int) : Option Double :=
  let x := ofNat significand
  if exponent < 0 then
    let more := (-exponent).toNat - 1
    some (scaleDown (more % greatestPower + 1) (more / greatestPower) x)
  else if exponent ≤ greatestPower then
    let y := x.mul (powerOfTen exponent.toNat)
    if y.isFinite then some y else none
  else if x = zero then some x else none

/-- The absolute value with a sign. -/
def withSign (negative : Bool) (x : Double) : Double := ofParts negative x.magnitude

/-- Whether the value is a whole number. -/
def isWhole (x : Double) : Bool :=
  match x.form with
  | .finite _ m e => let (p, q) := ratio m e; p % q = 0
  | _ => false

end Double

end Attest
