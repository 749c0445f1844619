import Attest.Text.Hex

/-!
Punycode: names of domains in ASCII.

The characters of ASCII are kept. The others are told in increasing order, each by how far on it
lies from the one before, counting characters and places at once; the distances are numbers of
varying length whose digits have thresholds that follow the distances met so far.
-/

namespace Attest.Url.Punycode

/-- The digits are the letters, then 0 to 9. -/
def digit (n : Nat) : Char := if n < 26 then Char.ofNat (97 + n) else Char.ofNat (22 + n)

/-- The threshold of the digit at place `k`. -/
def threshold (k bias : Nat) : Nat :=
  if k ≤ bias then 1 else if bias + 26 ≤ k then 26 else k - bias

theorem threshold_pos (k bias : Nat) : 0 < threshold k bias := by
  unfold threshold; grind

/-- Divides by 35 until at most 455 is left, and counts 36 for each time. -/
def scale (delta k : Nat) : Nat × Nat :=
  if 455 < delta then scale (delta / 35) (k + 36) else (delta, k)
termination_by delta
decreasing_by omega

/-- The thresholds after a distance; `points` characters have been told by then. -/
def adapt (delta points : Nat) (isFirst : Bool) : Nat :=
  let delta := if isFirst then delta / 700 else delta / 2
  let (delta, k) := scale (delta + delta / points) 0
  k + 36 * delta / (delta + 38)

/-- The digits of a distance. -/
def distance (bias k q : Nat) : List Char :=
  let t := threshold k bias
  if q < t then [digit q]
  else digit (t + (q - t) % (36 - t)) :: distance bias (k + 36) ((q - t) / (36 - t))
termination_by q
decreasing_by
  have := threshold_pos k bias
  exact Nat.lt_of_le_of_lt (Nat.div_le_self _ _) (by omega)

/-- Where telling stands: the distance under way, the thresholds, how many characters were told, and
the digits, last first. -/
structure State where
  delta : Nat := 0
  bias : Nat := 72
  told : Nat
  digits : List Char := []

/-- Passes one character of the name while the character `point` is told. -/
def pass (basic point : Nat) (s : State) (c : Char) : State :=
  if c.toNat < point then { s with delta := s.delta + 1 }
  else if c.toNat = point then
    { delta := 0
      bias := adapt s.delta (s.told + 1) (s.told = basic)
      told := s.told + 1
      digits := (distance s.bias 36 s.delta).reverse ++ s.digits }
  else s

/-- Tells the characters `points`, which increase; `next` is the least that was not yet told. -/
def tell (cs : List Char) (basic : Nat) : (points : List Nat) → (next : Nat) → State → State
  | [], _, s => s
  | point :: rest, next, s =>
    let s := { s with delta := s.delta + (point - next) * (s.told + 1) }
    let s := cs.foldl (pass basic point) s
    tell cs basic rest (point + 1) { s with delta := s.delta + 1 }

/-- Puts a number in order, once. -/
def insert (n : Nat) : List Nat → List Nat
  | [] => [n]
  | m :: rest => if n < m then n :: m :: rest else if n = m then m :: rest else m :: insert n rest

/-- The Punycode of a name. -/
def encode (cs : List Char) : List Char :=
  let basic := cs.filter (·.toNat < 0x80)
  let points := ((cs.filter (0x80 ≤ ·.toNat)).map Char.toNat).foldr insert []
  let s := tell cs basic.length points 0x80 { told := basic.length }
  (if basic.isEmpty then [] else basic ++ ['-']) ++ s.digits.reverse

end Attest.Url.Punycode
