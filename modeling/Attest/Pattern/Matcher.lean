import Attest.Pattern.Classes

/-!
Matching.

A `Matcher` is what a pattern means: sets of characters and conditions on places, joined by
sequence, choice and repetition. `Matcher.ends` takes a set of places of the text, given as one flag
for each, to the set of places where a match that begins in the first can end, so a text is matched
in time bounded by its length and the size of the pattern. A text matches if a match begins anywhere
in it. `Matcher.starts` is the way back: from a set of ends to the places where a match can begin.
-/

namespace Attest.Pattern

open Unicode (CodeSet)

/-- A condition on the characters before and after a place. -/
inductive Condition where
  | textStart
  | textEnd
  | lineStart
  | lineEnd
  | crlfLineStart
  | crlfLineEnd
  | word (kind : Anchor) (unicode : Bool)
deriving DecidableEq, Repr

/-- What a pattern means. Which texts match does not depend on whether a repetition is greedy, nor
on groups; which of several matches from one place is preferred does. -/
inductive Matcher where
  | nothing
  | one (set : CodeSet)
  | condition (c : Condition)
  | seq (first second : Matcher)
  | either (first second : Matcher)
  | repeated (least : Nat) (greatest : Option Nat) (isGreedy : Bool) (m : Matcher)
  | group (captures : Bool) (m : Matcher)
deriving Repr

/-- What lies before and after a place. -/
structure Around where
  before : Option Char
  after : Option Char
deriving Repr

/-- The surroundings of each place of a text, the end included. -/
def Around.of : (before : Option Char) → List Char → List Around
  | before, [] => [⟨before, none⟩]
  | before, c :: rest => ⟨before, some c⟩ :: Around.of (some c) rest

def isWordAt (unicode : Bool) (c : Option Char) : Bool :=
  c.any ((LetterClass.word.set unicode).contains ·)

/-- Whether a condition on words holds between the two sides. -/
def Anchor.wordHolds (kind : Anchor) (before after : Bool) : Bool :=
  match kind with
  | .wordBoundary => before != after
  | .noWordBoundary => before == after
  | .wordStart => !before && after
  | .wordEnd => before && !after
  | .wordStartHalf => !before
  | .wordEndHalf => !after
  | _ => false

def Condition.holds (a : Around) : Condition → Bool
  | .textStart => a.before.isNone
  | .textEnd => a.after.isNone
  | .lineStart => a.before.isNone || a.before == some '\n'
  | .lineEnd => a.after.isNone || a.after == some '\n'
  | .crlfLineStart =>
    a.before.isNone || a.before == some '\n' || (a.before == some '\r' && a.after != some '\n')
  | .crlfLineEnd =>
    a.after.isNone || a.after == some '\r' || (a.after == some '\n' && a.before != some '\r')
  | .word kind unicode => kind.wordHolds (isWordAt unicode a.before) (isWordAt unicode a.after)

/-- A set of places: one flag for each place of the text. -/
abbrev Places := List Bool

namespace Places

/-- The places after a character of `set` at one of the places. -/
def shift (set : CodeSet) : List Around → Places → Places
  | a :: rest, p :: ps => (p && a.after.any (set.contains ·)) :: shift set rest ps
  | _, _ => []

/-- The places after a character: the first place is after none. -/
def advance (set : CodeSet) (text : List Around) (ps : Places) : Places :=
  false :: (shift set text ps).dropLast

/-- The places before a character of `set` that one of the places comes after. -/
def retreat (set : CodeSet) (text : List Around) (ps : Places) : Places :=
  List.zipWith (fun a p => p && a.after.any (set.contains ·)) text (ps.drop 1 ++ [false])

def restrict (c : Condition) (text : List Around) (ps : Places) : Places :=
  List.zipWith (fun a p => p && c.holds a) text ps

def union (ps qs : Places) : Places := List.zipWith (· || ·) ps qs

/-- The places of the first set that are not in the second. -/
def diff (ps qs : Places) : Places := List.zipWith (fun p q => p && !q) ps qs

def isEmpty (ps : Places) : Bool := !ps.any id

/-- Applies `step` so many times, or until nothing changes. -/
def iterate (step : Places → Places) : (count : Nat) → Places → Places
  | 0, ps => ps
  | count + 1, ps =>
    let next := step ps
    if next = ps then ps else iterate step count next

/-- All places reached from `reached` by at most `count` steps; `fresh` are those not yet tried. -/
def spread (step : Places → Places) : (count : Nat) → (reached fresh : Places) → Places
  | 0, reached, _ => reached
  | count + 1, reached, fresh =>
    let next := diff (step fresh) reached
    if next.isEmpty then reached else spread step count (union reached next) next

end Places

/-- The rounds that a repetition may go on after the least number, at most `bound`. -/
def roundsLeft (bound least : Nat) (greatest : Option Nat) : Nat :=
  match greatest with
  | some greatest => min (greatest - least) bound
  | none => bound

/-- The places where a match that begins at one of the places can end. A repetition settles after as
many rounds as there are places, so larger counts are cut to that. -/
def Matcher.ends (text : List Around) : Matcher → Places → Places
  | .nothing, ps => ps
  | .one set, ps => ps.advance set text
  | .condition c, ps => ps.restrict c text
  | .seq a b, ps => b.ends text (a.ends text ps)
  | .either a b, ps => (a.ends text ps).union (b.ends text ps)
  | .repeated least greatest _ m, ps =>
    let bound := text.length + 1
    let start := Places.iterate (m.ends text) (min least bound) ps
    let more := roundsLeft bound least greatest
    Places.spread (m.ends text) more start start
  | .group _ m, ps => m.ends text ps

/-- The places where a match that ends at one of the places can begin. -/
def Matcher.starts (text : List Around) : Matcher → Places → Places
  | .nothing, ps => ps
  | .one set, ps => ps.retreat set text
  | .condition c, ps => ps.restrict c text
  | .seq a b, ps => a.starts text (b.starts text ps)
  | .either a b, ps => (a.starts text ps).union (b.starts text ps)
  | .repeated least greatest _ m, ps =>
    let bound := text.length + 1
    let stop := Places.spread (m.starts text) (roundsLeft bound least greatest) ps ps
    Places.iterate (m.starts text) (min least bound) stop
  | .group _ m, ps => m.starts text ps

/-- Whether a match begins anywhere in the text. -/
def Matcher.accepts (m : Matcher) (text : String) : Bool :=
  let around := Around.of none text.toList
  (m.ends around (around.map fun _ => true)).any id

end Attest.Pattern
