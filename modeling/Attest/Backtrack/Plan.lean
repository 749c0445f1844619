import Attest.Backtrack.Part

/-!
Plans: how a pattern is matched by trying.

The easy parts of a pattern become blocks, each matched at one go by its preferred match and never
come back to. What is left is tried way by way. `Part.plan` draws the line: what stands in a
sequence after a part that must be tried is tried too, unless it always takes as many characters,
since another of its matches may be the one that fits.
-/

namespace Attest.Backtrack

open Pattern (Matcher)

/-- A way to match a part by trying. -/
inductive Plan where
  | nothing
  | text (chars : List Char)
  | anyChar (newline : Bool)
  /-- An easy part, and how many characters it takes if that is always the same. -/
  | block (width : Option Nat) (m : Matcher)
  | sequence (first second : Plan)
  | either (first second : Plan)
  | group (index : Nat) (plan : Plan)
  | optional (isGreedy : Bool) (plan : Plan)
  | many (isGreedy : Bool) (plan : Plan)
  | counted (least : Nat) (greatest : Option Nat) (isGreedy : Bool) (plan : Plan)
  /-- Any number of rounds from a least one, where a round may take nothing. -/
  | guarded (loop least : Nat) (isGreedy : Bool) (plan : Plan)
  /-- What must match from so many characters before the place. -/
  | look (distance : Nat) (plan : Plan)
  /-- What must not match from so many characters before the place. -/
  | refuse (distance : Nat) (plan : Plan)
  | recall (group : Nat)
  | isSet (group : Nat)
  | atomic (plan : Plan)
  | conditional (condition whenTrue whenFalse : Plan)
  | searchStart
deriving Repr

namespace Part

/-- The plan for easy parts in a row. The plain pattern must be a pattern on its own. -/
def blockPlan (parts : List Part) : Option Plan :=
  if parts.isEmpty then some .nothing
  else
    match charsOfAll? parts with
    | some cs => some (.text cs)
    | none =>
      let text := String.join (parts.map (text 1))
      let width := if allFixed parts then some (widthOfAll parts) else none
      match Pattern.compile ("^" ++ text), Pattern.describe text with
      | .ok _, .ok m => some (.block width m)
      | _, _ => none

/-- The plan to look from before a part: what is looked at must always take as many characters. -/
def lookPlan (isBehind isNegated : Bool) (part : Part) (plan : Plan) : Option Plan :=
  if isBehind && !part.isFixed then none
  else
    let distance := if isBehind then part.width else 0
    some (if isNegated then .refuse distance plan else .look distance plan)

/-- The plan of a repetition; `isEmpty` tells that a round may take nothing. -/
def repeatPlan (loop least : Nat) (greatest : Option Nat) (isGreedy isEmpty : Bool) (plan : Plan) :
    Plan :=
  match least, greatest with
  | 0, some 1 => .optional isGreedy plan
  | _, some _ => .counted least greatest isGreedy plan
  | 0, none => if isEmpty then .guarded loop 0 isGreedy plan else .many isGreedy plan
  | 1, none =>
    if isEmpty then .guarded loop 1 isGreedy plan else .sequence plan (.many isGreedy plan)
  | _, none =>
    if isEmpty then .guarded loop least isGreedy plan else .counted least none isGreedy plan

/-- How many parts at the beginning are easy and always take as many characters. -/
def easyStart (recalled : List Nat) (parts : List Part) : Nat :=
  (parts.takeWhile fun part => part.isFixed && !part.isHard recalled).length

/-- How many parts at the end are easy, and always take as many characters if `mustBeFixed`. -/
def easyEnd (recalled : List Nat) (mustBeFixed : Bool) (parts : List Part) : Nat :=
  (parts.reverse.takeWhile fun part =>
    (!mustBeFixed || part.isFixed) && !part.isHard recalled).length

mutual

/-- The plan of a part; there is none if a part of it is no pattern. `isTried` tells that other
matches of the part may be asked for. -/
def plan (recalled : List Nat) (isTried : Bool) (part : Part) : Option Plan :=
  if !isTried && !part.isHard recalled then blockPlan [part]
  else
    match part with
    | .empty => some .nothing
    | .anyChar newline => some (.anyChar newline)
    | .concat parts => do
      let first := easyStart recalled parts
      let last := easyEnd recalled isTried (parts.drop first)
      let middle := parts.length - first - last
      let start ← blockPlan (parts.take first)
      let tried ← planRange recalled first middle parts
      let stop ← blockPlan (parts.drop (first + middle))
      return .sequence start (.sequence tried stop)
    | .choice parts => planChoice recalled isTried parts
    | .group index part => do return .group index (← part.plan recalled isTried)
    | .repeated loop least greatest isGreedy part => do
      let isTried := isTried || (part.isHard recalled && !(least == 0 && greatest == some 1))
      return repeatPlan loop least greatest isGreedy (part.width == 0)
        (← part.plan recalled isTried)
    | .look isBehind isNegated (.choice parts) =>
      if isBehind && !(Part.choice parts).isFixed then planLooks recalled isNegated parts
      else do
        lookPlan isBehind isNegated (.choice parts) (← (Part.choice parts).plan recalled false)
    | .look isBehind isNegated part => do
      lookPlan isBehind isNegated part (← part.plan recalled false)
    | .atomic part => do return .atomic (← part.plan recalled false)
    | .recall index => some (.recall index)
    | .isSet index => some (.isSet index)
    | .conditional condition whenTrue whenFalse => do
      let condition ← condition.plan recalled isTried
      let whenTrue ← whenTrue.plan recalled isTried
      return .conditional condition whenTrue (← whenFalse.plan recalled isTried)
    | .keepOut => some .nothing
    | .searchStart => some .searchStart
    | part => blockPlan [part]

/-- The plans of parts in a row, all tried: after the first `skip`, so many. -/
def planRange (recalled : List Nat) : (skip count : Nat) → List Part → Option Plan
  | _, _, [] => some .nothing
  | skip + 1, count, _ :: rest => planRange recalled skip count rest
  | 0, 0, _ => some .nothing
  | 0, count + 1, part :: rest => do
    let first ← part.plan recalled true
    return .sequence first (← planRange recalled 0 count rest)

def planChoice (recalled : List Nat) (isTried : Bool) : List Part → Option Plan
  | [] => some .nothing
  | [part] => part.plan recalled isTried
  | part :: rest => do
    let first ← part.plan recalled isTried
    return .either first (← planChoice recalled isTried rest)

/-- To look behind for branches that take different numbers of characters, each is looked for. -/
def planLooks (recalled : List Nat) (isNegated : Bool) : List Part → Option Plan
  | [] => some .nothing
  | [part] => do lookPlan true isNegated part (← part.plan recalled false)
  | part :: rest => do
    let first ← lookPlan true isNegated part (← part.plan recalled false)
    let others ← planLooks recalled isNegated rest
    return if isNegated then .sequence first others else .either first others

end

end Part

end Attest.Backtrack
