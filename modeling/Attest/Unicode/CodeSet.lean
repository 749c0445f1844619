import Attest.Text.Hex

/-!
Sets of code points.

A `CodeSet` is a list of inclusive ranges in increasing order, none of which touches the next, so a
set has one representation. `ofRanges` brings any list of ranges into that form; union, complement,
intersection and difference are all built from it. A standard's data comes as text, ranges in
hexadecimal (`41-5A 5F 61-7A`), which `ofTable` reads.
-/

namespace Attest.Unicode

/-- A set of code points: inclusive ranges, increasing, with a gap between neighbours. -/
structure CodeSet where
  ranges : List (Nat × Nat)
deriving DecidableEq, Repr, Inhabited

/-- The largest code point. -/
def lastCode : Nat := 0x10FFFF

namespace CodeSet

/-- The set without members. -/
def empty : CodeSet := ⟨[]⟩

/-- Every code point that is a character: the surrogates are none. -/
def all : CodeSet := ⟨[(0, 0xD7FF), (0xE000, lastCode)]⟩

def isEmpty (s : CodeSet) : Bool := s.ranges.isEmpty

/-- Whether `n` lies in one of the ranges; the search ends at the first that starts above it. -/
def inRanges (n : Nat) : List (Nat × Nat) → Bool
  | [] => false
  | (lo, hi) :: rest => if n < lo then false else n ≤ hi || inRanges n rest

def containsCode (s : CodeSet) (n : Nat) : Bool := inRanges n s.ranges

def contains (s : CodeSet) (c : Char) : Bool := s.containsCode c.toNat

/-- Joins ranges sorted by their lower ends where they overlap or touch. A range may end after one
that starts later, so the joining runs from the left with the furthest end reached so far. -/
def sweep : (current : Nat × Nat) → List (Nat × Nat) → List (Nat × Nat)
  | r, [] => [r]
  | r, q :: rest =>
    if q.1 ≤ r.2 + 1 then sweep (r.1, max r.2 q.2) rest else r :: sweep q rest

/-- The set of the code points in any of the ranges, given in any order. -/
def ofRanges (ranges : List (Nat × Nat)) : CodeSet :=
  match (ranges.filter fun r => r.1 ≤ r.2).mergeSort (fun a b => a.1 ≤ b.1) with
  | [] => empty
  | r :: rest => ⟨sweep r rest⟩

def range (lo hi : Nat) : CodeSet := ofRanges [(lo, hi)]

def single (c : Char) : CodeSet := range c.toNat c.toNat

def ofChars (cs : List Char) : CodeSet := ofRanges (cs.map fun c => (c.toNat, c.toNat))

def union (s t : CodeSet) : CodeSet := ofRanges (s.ranges ++ t.ranges)

/-- What any of the sets has. -/
def unions (sets : List CodeSet) : CodeSet := ofRanges (sets.flatMap (·.ranges))

/-- The gaps between the ranges, from `start` on. -/
def gaps : (start : Nat) → List (Nat × Nat) → List (Nat × Nat)
  | start, [] => if start ≤ lastCode then [(start, lastCode)] else []
  | start, (lo, hi) :: rest =>
    if start < lo then (start, lo - 1) :: gaps (hi + 1) rest else gaps (hi + 1) rest

/-- Every code point, surrogates included, that is not in the set. -/
def complementCodes (s : CodeSet) : CodeSet := ⟨gaps 0 s.ranges⟩

/-- What both sets have: not what one of them lacks. -/
def inter (s t : CodeSet) : CodeSet :=
  (s.complementCodes.union t.complementCodes).complementCodes

/-- The characters outside the set. -/
def complement (s : CodeSet) : CodeSet := s.complementCodes.inter all

def diff (s t : CodeSet) : CodeSet := (s.complementCodes.union t).complementCodes

/-- The members of exactly one of the two sets. -/
def symmDiff (s t : CodeSet) : CodeSet := (s.diff t).union (t.diff s)

/-- Whether every member is an ASCII character. -/
def isAscii (s : CodeSet) : Bool := s.ranges.all fun r => r.2 < 0x80

end CodeSet

/-! ### Tables of a standard, read from text -/

/-- What has been read of a table: the finished ranges, last first, and the one under way. -/
structure TableState where
  done : List (Nat × Nat) := []
  low : Option Nat := none
  high : Option Nat := none

namespace TableState

/-- Files the range under way: `41` stands for `41-41`. -/
def close (s : TableState) : TableState :=
  match s.low, s.high with
  | some lo, some hi => ⟨(lo, hi) :: s.done, none, none⟩
  | none, some n => ⟨(n, n) :: s.done, none, none⟩
  | _, none => ⟨s.done, none, none⟩

def feed (s : TableState) (c : Char) : TableState :=
  match Text.hexDigit? c with
  | some d => { s with high := some (s.high.getD 0 * 16 + d) }
  | none => if c = '-' then { s with low := s.high, high := none } else s.close

end TableState

/-- Reads ranges such as `41-5A 5F` from a table's text. -/
def CodeSet.ofTable (text : String) : CodeSet :=
  ⟨(text.foldl TableState.feed {}).close.done.reverse⟩

end Attest.Unicode
