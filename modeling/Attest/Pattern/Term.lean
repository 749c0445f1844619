import Attest.Pattern.Matcher

/-!
Patterns in simplest form.

A `Term` says the same as a matcher with fewer parts: characters that follow each other are one
text, a choice between characters is a set, a beginning that all branches share stands before the
choice, and what matches only the empty text is not repeated. The size of a pattern is that of its
simplest form.
-/

namespace Attest.Pattern

open Unicode (CodeSet)

/-- A pattern in simplest form. -/
inductive Term where
  | empty
  | text (cs : List Char)
  | set (s : CodeSet)
  | condition (c : Condition)
  | repeated (least : Nat) (greatest : Option Nat) (isGreedy : Bool) (t : Term)
  | capture (t : Term)
  | concat (ts : List Term)
  | choice (ts : List Term)
deriving Repr

namespace Term

mutual

/-- Whether two terms are the same. Groups that capture have places of their own and are never the
same. -/
def same : Term → Term → Bool
  | .empty, .empty => true
  | .text cs, .text ds => cs == ds
  | .set s, .set t => s == t
  | .condition c, .condition d => c == d
  | .repeated least greatest isGreedy t, .repeated least' greatest' isGreedy' t' =>
    least == least' && greatest == greatest' && isGreedy == isGreedy' && t.same t'
  | .concat ts, .concat us => sameAll ts us
  | .choice ts, .choice us => sameAll ts us
  | _, _ => false

def sameAll : List Term → List Term → Bool
  | [], [] => true
  | t :: ts, u :: us => t.same u && sameAll ts us
  | _, _ => false

end

mutual

/-- Whether only the empty text matches. -/
def isEmptyOnly : Term → Bool
  | .empty => true
  | .text _ => false
  | .set _ => false
  | .condition _ => true
  | .repeated _ greatest _ t => greatest.isSome && t.isEmptyOnly
  | .capture t => t.isEmptyOnly
  | .concat ts => allEmptyOnly ts
  | .choice ts => allEmptyOnly ts

def allEmptyOnly : List Term → Bool
  | [] => true
  | t :: ts => t.isEmptyOnly && allEmptyOnly ts

end

/-! ### Joining terms -/

/-- The set of the characters, or the one character. -/
def ofSet (s : CodeSet) : Term :=
  match s.ranges with
  | [(lo, hi)] => if lo = hi then .text [Char.ofNat lo] else .set s
  | _ => .set s

/-- The terms that a term joins. -/
def items : Term → List Term
  | .empty => []
  | .concat ts => ts
  | t => [t]

/-- Puts a term before others; texts that meet become one. -/
def prepend : Term → List Term → List Term
  | .text cs, .text ds :: rest => .text (cs ++ ds) :: rest
  | t, rest => t :: rest

/-- The terms one after the other. -/
def join (ts : List Term) : Term :=
  match (ts.flatMap items).foldr prepend [] with
  | [] => .empty
  | [t] => t
  | ts => .concat ts

/-- The characters that a choice is between, if it is one between single characters. -/
def soleChars? : List Term → Option (List Char)
  | [] => some []
  | .text [c] :: rest => (soleChars? rest).map (c :: ·)
  | _ => none

/-- The sets that a choice is between, if it is one between sets. -/
def sets? : List Term → Option (List CodeSet)
  | [] => some []
  | .set s :: rest => (sets? rest).map (s :: ·)
  | _ => none

/-- The terms that each branch joins, if each joins several. -/
def branches? : List Term → Option (List (List Term))
  | [] => some []
  | .concat ts :: rest => (branches? rest).map (ts :: ·)
  | _ => none

/-- How many leading terms two lists share. -/
def sharedLength : List Term → List Term → Nat
  | t :: ts, u :: us => if t.same u then sharedLength ts us + 1 else 0
  | _, _ => 0

/-- The number of leading terms that all branches share. -/
def sharedByAll : List (List Term) → Nat
  | [] => 0
  | first :: rest => rest.foldl (fun n ts => min n (sharedLength first ts)) first.length

/-- One of the terms. What all branches begin with is put before the choice, as often as there is
such a beginning. -/
def chooseBy : (fuel : Nat) → List Term → Term
  | 0, ts => .choice ts
  | fuel + 1, ts =>
    let ts := ts.flatMap fun t => match t with | .choice us => us | t => [t]
    match ts with
    | [] => .set .empty
    | [t] => t
    | _ =>
      match soleChars? ts, sets? ts, branches? ts with
      | some cs, _, _ => ofSet (.ofChars cs)
      | _, some sets, _ => ofSet (.unions sets)
      | _, _, some branches =>
        match sharedByAll branches, branches with
        | n + 1, first :: _ =>
          join (first.take (n + 1) ++
            [chooseBy fuel (branches.map fun ts => join (ts.drop (n + 1)))])
        | _, _ => .choice ts
      | _, _, _ => .choice ts

/-- One of the terms. A beginning can be split off only as often as a branch has terms. -/
def choose (ts : List Term) : Term :=
  chooseBy (1 + (ts.map fun t => t.items.length).foldl max 0) ts

/-- So many rounds of the term. What matches only the empty text is not repeated. -/
def times (least : Nat) (greatest : Option Nat) (isGreedy : Bool) (t : Term) : Term :=
  let (least, greatest) := if t.isEmptyOnly then (min least 1, some (min (greatest.getD 1) 1))
    else (least, greatest)
  if greatest = some 0 then .empty
  else if least = 1 ∧ greatest = some 1 then t
  else .repeated least greatest isGreedy t

end Term

mutual

/-- The simplest form of a matcher. -/
def Matcher.term : Matcher → Term
  | .nothing => .empty
  | .one s => .ofSet s
  | .condition c => .condition c
  | .seq a b => .join (a.term :: b.followers)
  | .either a b => .choose (a.term :: b.branches)
  | .repeated least greatest isGreedy m => .times least greatest isGreedy m.term
  | .group captures m => if captures then .capture m.term else m.term

/-- The terms of a sequence. -/
def Matcher.followers : Matcher → List Term
  | .seq a b => a.term :: b.followers
  | .nothing => []
  | .one s => [.ofSet s]
  | .condition c => [.condition c]
  | .either a b => [.choose (a.term :: b.branches)]
  | .repeated least greatest isGreedy m => [.times least greatest isGreedy m.term]
  | .group captures m => [if captures then .capture m.term else m.term]

/-- The terms of a choice. -/
def Matcher.branches : Matcher → List Term
  | .either a b => a.term :: b.branches
  | .nothing => [.empty]
  | .one s => [.ofSet s]
  | .condition c => [.condition c]
  | .seq a b => [.join (a.term :: b.followers)]
  | .repeated least greatest isGreedy m => [.times least greatest isGreedy m.term]
  | .group captures m => [if captures then .capture m.term else m.term]

end

end Attest.Pattern
