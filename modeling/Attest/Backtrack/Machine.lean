import Attest.Backtrack.Plan
import Attest.Number.Power
import Attest.Pattern.Preference

/-!
Trying plans.

A `Branch` is a way that matching may go on: the tasks left, the place of the text they begin at,
and what was noted on the way. One branch is followed at a time. Where there are two ways, the other
one is kept, and taken up when the first has failed; the one kept last comes first. A task may drop
the branches kept since a certain time. How often a branch is taken up and how many are kept is
limited.
-/

namespace Attest.Backtrack

open Pattern (Around)

/-! ### Notes -/

/-- Numbers noted under numbers, the last one for each. -/
abbrev Notes := List (Nat × Nat)

def Notes.put (notes : Notes) (key value : Nat) : Notes :=
  (key, value) :: notes.filter fun note => note.1 ≠ key

/-- What is left to be done. -/
inductive Task where
  | run (plan : Plan)
  | closeGroup (index : Nat)
  /-- Goes on with a repetition after so many rounds. -/
  | counted (done least : Nat) (greatest : Option Nat) (isGreedy : Bool) (plan : Plan)
  | guarded (loop done least : Nat) (isGreedy : Bool) (plan : Plan)
  | goTo (place : Nat)
  /-- Goes so many characters back, if there are as many. -/
  | goBack (distance : Nat)
  /-- Fails, and drops the branches kept since there were so many. -/
  | refuse (kept : Nat)
  /-- Drops the branches kept since the last mark. -/
  | cut
deriving Repr

/-- A way to go on. -/
structure Branch where
  tasks : List Task
  place : Nat := 0
  /-- Where groups were opened last. -/
  starts : Notes := []
  /-- Where groups were closed last. -/
  stops : Notes := []
  /-- Where the last rounds of guarded repetitions began. -/
  rounds : Notes := []
  /-- The marks: how many branches were kept when each was set, the last one first. -/
  marks : List Nat := []
deriving Repr

/-- What a task leads to. -/
inductive Outcome where
  | found
  | goOn (next : Branch)
  /-- Goes on with the first branch and keeps the other. -/
  | fork (next other : Branch)
  /-- Goes on with so many of the branches kept. -/
  | cutTo (kept : Nat) (next : Branch)
  | fail
  | failTo (kept : Nat)

namespace Branch

/-- Puts a plan before the tasks. -/
def first (b : Branch) (plan : Plan) : Branch := { b with tasks := .run plan :: b.tasks }

/-- Whether the characters come next in the text. -/
def sees (text : Array Around) (place : Nat) : List Char → Bool
  | [] => true
  | c :: rest => (text[place]?.bind Around.after) == some c && sees text (place + 1) rest

/-- Goes past the characters, if they come next. -/
def pass (text : Array Around) (b : Branch) (cs : List Char) : Outcome :=
  if sees text b.place cs then .goOn { b with place := b.place + cs.length } else .fail

/-- The characters between two places. -/
def between (text : Array Around) (start stop : Nat) : List Char :=
  (text.extract start stop).toList.filterMap Around.after

/-- Keeps the less preferred of two branches. -/
def prefer (isFirst : Bool) (a b : Branch) : Outcome := if isFirst then .fork a b else .fork b a

/-- Another round, or the end of the repetition. -/
def repeatCounted (b : Branch) (done least : Nat) (greatest : Option Nat) (isGreedy : Bool)
    (plan : Plan) : Outcome :=
  if greatest == some done then .goOn b
  else
    let again := { b with tasks := .counted (done + 1) least greatest isGreedy plan :: b.tasks }
    if done < least then .goOn (again.first plan) else prefer isGreedy (again.first plan) b

/-- Another round, or the end of the repetition; fails after a round that took nothing. -/
def repeatGuarded (b : Branch) (loop done least : Nat) (isGreedy : Bool) (plan : Plan) : Outcome :=
  if 0 < done ∧ b.rounds.lookup loop = some b.place then .fail
  else
    let again := (.guarded loop (done + 1) least isGreedy plan :: b.tasks)
    if done < least then .goOn ({ b with tasks := again }.first plan)
    else
      let b := { b with rounds := b.rounds.put loop b.place }
      prefer isGreedy ({ b with tasks := again }.first plan) b

/-- Runs a plan; `kept` is the number of branches kept, and the plan no longer among the tasks. -/
def run (text : Array Around) (kept : Nat) (b : Branch) : Plan → Outcome
  | .nothing => .goOn b
  | .text cs => pass text b cs
  | .anyChar newline =>
    match text[b.place]?.bind Around.after with
    | some c => if newline || c != '\n' then .goOn { b with place := b.place + 1 } else .fail
    | none => .fail
  | .block width m =>
    let stop := match width with
      | some width => b.place + width + 1
      | none => text.size
    match m.preferredEnd? (text.extract b.place stop).toList with
    | some taken => .goOn { b with place := b.place + taken }
    | none => .fail
  | .sequence p q => .goOn ((b.first q).first p)
  | .either p q => .fork (b.first p) (b.first q)
  | .group index p =>
    .goOn { b with
      starts := b.starts.put index b.place
      tasks := .run p :: .closeGroup index :: b.tasks }
  | .optional isGreedy p => prefer isGreedy (b.first p) b
  | .many isGreedy p => prefer isGreedy ((b.first (.many isGreedy p)).first p) b
  | .counted least greatest isGreedy p => b.repeatCounted 0 least greatest isGreedy p
  | .guarded loop least isGreedy p => b.repeatGuarded loop 0 least isGreedy p
  | .look distance p =>
    .goOn { b with tasks := .goBack distance :: .run p :: .goTo b.place :: b.tasks }
  | .refuse distance p =>
    .fork { b with tasks := [.goBack distance, .run p, .refuse kept] } b
  | .recall group =>
    match b.starts.lookup group, b.stops.lookup group with
    | some start, some stop => pass text b (between text start stop)
    | _, _ => .fail
  | .isSet group => if (b.starts.lookup group).isSome then .goOn b else .fail
  | .atomic p =>
    .goOn { b with marks := kept :: b.marks, tasks := .run p :: .cut :: b.tasks }
  | .conditional condition p q =>
    let b := { b with marks := kept :: b.marks }
    .fork { b with tasks := .run condition :: .cut :: .run p :: b.tasks } (b.first q)
  | .searchStart => if b.place = 0 then .goOn b else .fail

/-- Does the first task. -/
def step (text : Array Around) (kept : Nat) (b : Branch) : Outcome :=
  match b.tasks with
  | [] => .found
  | task :: rest =>
    let b := { b with tasks := rest }
    match task with
    | .run plan => b.run text kept plan
    | .closeGroup index => .goOn { b with stops := b.stops.put index b.place }
    | .counted done least greatest isGreedy plan =>
      b.repeatCounted done least greatest isGreedy plan
    | .guarded loop done least isGreedy plan => b.repeatGuarded loop done least isGreedy plan
    | .goTo place => .goOn { b with place := place }
    | .goBack distance =>
      if b.place < distance then .fail else .goOn { b with place := b.place - distance }
    | .refuse kept => .failTo kept
    | .cut =>
      match b.marks with
      | mark :: marks => .cutTo mark { b with marks := marks }
      | [] => .goOn b

end Branch

/-! ### Search -/

/-- A limit that trying has come to. -/
inductive Limit where
  | branchesTaken
  | branchesKept
deriving DecidableEq, Repr

/-- What is told of a limit that was come to. -/
def Limit.message : Limit → String
  | .branchesTaken => "Max limit for backtracking count exceeded"
  | .branchesKept =>
    "Max stack size exceeded for backtracking while executing regex"

/-- How many branches may be taken up. -/
def takenLimit : Nat := 1000000

/-- How many branches may be kept at a time. -/
def keptLimit : Nat := 1000000

/-- More tasks than are ever done. -/
def taskLimit : Nat := pow10 18

/-- Where trying stands: the branch followed, those kept with their number, and how many may still
be taken up. -/
structure Trial where
  now : Branch
  others : List Branch := []
  kept : Nat := 0
  left : Nat := takenLimit

namespace Trial

/-- Drops the branches kept since there were so many. -/
def cut (t : Trial) (kept : Nat) : Trial :=
  { t with others := t.others.drop (t.kept - kept), kept := min kept t.kept }

/-- Takes up the branch kept last. -/
def resume (t : Trial) : Except Limit (Bool ⊕ Trial) :=
  match t.others with
  | [] => .ok (.inl false)
  | next :: others =>
    if t.left = 0 then .error .branchesTaken
    else .ok (.inr { now := next, others := others, kept := t.kept - 1, left := t.left - 1 })

/-- What comes after a task: the verdict, or the next stand. -/
def advance (text : Array Around) (t : Trial) : Except Limit (Bool ⊕ Trial) :=
  match t.now.step text t.kept with
  | .found => .ok (.inl true)
  | .goOn next => .ok (.inr { t with now := next })
  | .fork next other =>
    if t.kept < keptLimit then
      .ok (.inr { t with now := next, others := other :: t.others, kept := t.kept + 1 })
    else .error .branchesKept
  | .cutTo kept next => .ok (.inr { t.cut kept with now := next })
  | .fail => t.resume
  | .failTo kept => (t.cut kept).resume

/-- Does tasks until there is a verdict. -/
def verdict (text : Array Around) : (fuel : Nat) → Trial → Except Limit Bool
  | 0, _ => .error .branchesTaken
  | fuel + 1, t =>
    match t.advance text with
    | .error limit => .error limit
    | .ok (.inl found) => .ok found
    | .ok (.inr next) => verdict text fuel next

end Trial

/-- Whether the plan matches from the beginning of the text. -/
def Plan.succeeds (plan : Plan) (text : String) : Except Limit Bool :=
  Trial.verdict (Around.of none text.toList).toArray taskLimit
    { now := { tasks := [.run plan] } }

end Attest.Backtrack
