import Attest.Pattern.Matcher

/-!
Preferred matches.

Several matches can begin at one place. A choice prefers its first branch, and a repetition as many
rounds as it can get if it is greedy and as few if not. `Matcher.prefer` follows these preferences
among the matches that end at one of the places given, and never turns back: it enters a branch only
if the way from there leads to such an end.
-/

namespace Attest.Pattern

/-- Whether the place is in the set. -/
def Places.has (ps : Places) (place : Nat) : Bool := ps.getD place false

/-- The place itself, if it is one of the goals. -/
def stay (goal : Places) (place : Nat) : Option Nat := if goal.has place then some place else none

/-- So many rounds; `goal` are the places to be at after the last. `one` is a single round, and
`back` the way back of one. -/
def preferExactly (one : Nat → Places → Option Nat) (back : Places → Places) (goal : Places) :
    (count : Nat) → Nat → Option Nat
  | 0, place => stay goal place
  | count + 1, place =>
    (one place (Places.iterate back count goal)).bind (preferExactly one back goal count)

/-- At most so many rounds. -/
def preferUpTo (isGreedy : Bool) (one : Nat → Places → Option Nat) (back : Places → Places)
    (goal : Places) : (count : Nat) → Nat → Option Nat
  | 0, place => stay goal place
  | count + 1, place =>
    let more : Option Nat := (one place (Places.spread back count goal goal)).bind
      (preferUpTo isGreedy one back goal count)
    if isGreedy then more.or (stay goal place) else (stay goal place).or more

/-- Any number of rounds; `reach` are the places from which rounds lead to a goal. A round that
takes nothing is the last. -/
def preferMany (isGreedy : Bool) (one : Nat → Places → Option Nat) (goal reach : Places) :
    (fuel : Nat) → Nat → Option Nat
  | 0, place => stay goal place
  | fuel + 1, place =>
    let more : Option Nat := (one place (reach.set place (goal.has place))).bind fun next =>
      if next = place then some place else preferMany isGreedy one goal reach fuel next
    if isGreedy then more.or (stay goal place) else (stay goal place).or more

/-- The end of the preferred match that begins at the place and ends at one of the goals. -/
def Matcher.prefer (text : List Around) : Matcher → Nat → Places → Option Nat
  | .nothing, place, goal => stay goal place
  | .one set, place, goal =>
    if (text[place]?.bind Around.after).any (set.contains ·) then stay goal (place + 1) else none
  | .condition c, place, goal =>
    if text[place]?.any (c.holds ·) then stay goal place else none
  | .seq a b, place, goal =>
    (a.prefer text place (b.starts text goal)).bind fun next => b.prefer text next goal
  | .either a b, place, goal => (a.prefer text place goal).or (b.prefer text place goal)
  | .repeated least greatest isGreedy m, place, goal =>
    let bound := text.length + 1
    let more := roundsLeft bound least greatest
    let reach := Places.spread (m.starts text) more goal goal
    (preferExactly (m.prefer text) (m.starts text) reach (min least bound) place).bind fun next =>
      if greatest.isSome then preferUpTo isGreedy (m.prefer text) (m.starts text) goal more next
      else preferMany isGreedy (m.prefer text) goal reach bound next
  | .group _ m, place, goal => m.prefer text place goal

/-- The end of the preferred match that begins at the first place of the text. -/
def Matcher.preferredEnd? (m : Matcher) (text : List Around) : Option Nat :=
  m.prefer text 0 (text.map fun _ => true)

end Attest.Pattern
