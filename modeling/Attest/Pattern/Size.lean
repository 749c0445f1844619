import Attest.Pattern.Term
import Std.Data.HashMap

/-!
The size of a pattern.

A pattern is matched by a machine that reads one byte at a time, forwards to find where a match ends
and backwards to find where it begins. `Tally` counts the states of such a machine and what their
links take. A set of characters becomes as many states as the byte sequences of its characters need;
states that lead on alike are shared, as far as a memory with a limited number of slots tells. A
pattern whose machine passes the limit in either direction is refused, however short it is to write.
-/

namespace Attest.Pattern

open Unicode (CodeSet)

/-- The size that the machine of a pattern may have. -/
def sizeLimit : Nat := 10485760

/-- The states of a machine so far, and the size of what belongs to them. -/
structure Tally where
  states : Nat := 0
  extra : Nat := 0
deriving DecidableEq, Repr

namespace Tally

def size (t : Tally) : Nat := 32 * t.states + t.extra

def isTooLarge (t : Tally) : Bool := sizeLimit < t.size

/-- Adds states that need nothing more. -/
def add (states : Nat) (t : Tally) : Tally := { t with states := t.states + states }

/-- Adds a state that chooses between so many others. -/
def addFork (ways : Nat) (t : Tally) : Tally := ⟨t.states + 1, t.extra + 4 * ways⟩

/-- Adds a state that tells so many ranges of bytes apart. -/
def addTable (ranges : Nat) (t : Tally) : Tally := ⟨t.states + 1, t.extra + 8 * ranges⟩

/-- Repeats a step, but no longer than until the limit is passed. -/
def repeated (step : Tally → Tally) : (count : Nat) → Tally → Tally
  | 0, t => t
  | count + 1, t => if t.isTooLarge then t else repeated step count (step t)

end Tally

/-! ### The bytes of characters -/

/-- A range of bytes. -/
abbrev ByteRange := UInt8 × UInt8

/-- The last code points whose encodings take one, two and three bytes. -/
def lengthEnds : List Nat := [0x7F, 0x7FF, 0xFFFF]

/-- The last code point of the first part into which a range must be cut, so that in each part every
byte of the encoding runs through a range of its own. None: the range need not be cut. -/
def cut? (first last : Nat) : Option Nat :=
  let byLength := lengthEnds.find? fun n => first ≤ n && n < last
  let byUnit (unit : Nat) : Option Nat :=
    if first / unit = last / unit then none
    else if first % unit ≠ 0 then some (first - first % unit + unit - 1)
    else if last % unit ≠ unit - 1 then some (last - last % unit - 1)
    else none
  let units := if last ≤ 0x7F then [] else [64, 64 * 64, 64 * 64 * 64]
  byLength.or (units.findSome? byUnit)

/-- The parts of a range. Each cut is at another place of at most a dozen. -/
def parts : (fuel : Nat) → (first last : Nat) → List (Nat × Nat)
  | 0, first, last => [(first, last)]
  | fuel + 1, first, last =>
    match cut? first last with
    | none => [(first, last)]
    | some n => parts fuel first n ++ parts fuel (n + 1) last

/-- The ranges that the bytes of a part run through. -/
def byteRanges (part : Nat × Nat) : List ByteRange :=
  (String.utf8EncodeChar (Char.ofNat part.1)).zip (String.utf8EncodeChar (Char.ofNat part.2))

/-- The sequences of byte ranges that the characters of a set are written in, in their order. -/
def byteSequences (s : CodeSet) : List (List ByteRange) :=
  ((s.inter .all).ranges.flatMap fun r => parts 16 r.1 r.2).map byteRanges

/-! ### Sharing of states -/

/-- A memory of states by what they do: each is kept in one slot, and another with the same slot
takes its place. -/
structure Memory where
  slots : Nat
  entries : Std.HashMap Nat (List UInt64 × Nat) := {}

namespace Memory

/-- Mixes numbers to one. -/
def mix (key : List UInt64) : UInt64 :=
  key.foldl (fun h n => (h ^^^ n) * 1099511628211) 14695981039346656037

def slot (m : Memory) (key : List UInt64) : Nat := (mix key).toNat % m.slots

def find? (m : Memory) (key : List UInt64) : Option Nat :=
  match m.entries[m.slot key]? with
  | some (key', state) => if key == key' then some state else none
  | none => none

def insert (m : Memory) (key : List UInt64) (state : Nat) : Memory :=
  { m with entries := m.entries.insert (m.slot key) (key, state) }

end Memory

/-- Counting with a memory of the states counted. -/
abbrev Shared := StateM (Tally × Memory)

/-- The state that does what the key says, which is added with `step` unless it is remembered. -/
def share (key : List UInt64) (step : Tally → Tally) : Shared Nat := do
  let (tally, memory) ← get
  match memory.find? key with
  | some state => return state
  | none =>
    set (step tally, memory.insert key tally.states)
    return tally.states

/-- Adds the states that read one of the sequences and lead to `target`, from the last one
backwards, and gives the first. No sequence is the beginning of another. -/
def addSequences (target : Nat) : (depth : Nat) → List (List ByteRange) → Shared Nat
  | 0, _ => return target
  | depth + 1, sequences =>
    if sequences == [[]] then return target
    else do
      let groups := sequences.splitBy fun a b => a.head? == b.head?
      let links ← groups.flatMapM fun group => do
        let next ← addSequences target depth (group.map (·.drop 1))
        return match group.head?.bind List.head? with
          | some (lo, hi) => [lo.toUInt64, hi.toUInt64, next.toUInt64]
          | none => []
      share links (·.addTable groups.length)

/-- Adds the states that read a sequence from its end, each before the one it leads to. -/
def addReversed : (state : Nat) → List ByteRange → Shared Nat
  | state, [] => return state
  | state, (lo, hi) :: rest => do
    let before ← share [state.toUInt64, lo.toUInt64, hi.toUInt64] (·.add 1)
    addReversed before rest

/-- Adds the states of a set. Read backwards, each sequence is a way of its own. -/
def Tally.addSet (backward : Bool) (s : CodeSet) (t : Tally) : Tally :=
  if s.isAscii then (t.add 1).addTable s.ranges.length
  else
    let sequences := byteSequences s
    if backward then
      let start := (t.addFork sequences.length).add 1
      ((sequences.forM fun q => discard (addReversed (t.states + 1) q)).run (start, ⟨1000, {}⟩)).2.1
    else
      let (_, t, _) := (addSequences t.states 4 sequences).run (t.add 1, ⟨10000, {}⟩)
      t

/-! ### Choices between texts -/

/-- The texts that follow each first byte, in the order of their first occurrence. -/
def byFirst : List (List UInt8) → List (List (List UInt8))
  | [] => []
  | [] :: rest => byFirst rest
  | (b :: bs) :: rest =>
    let later := byFirst rest
    match later.find? fun group => group.any fun text => text.head? == some b with
    | some _ => later.map fun group =>
        if group.any fun text => text.head? == some b then (b :: bs) :: group else group
    | none => [b :: bs] :: later

/-- The runs of texts between the empty ones. -/
def betweenEmpty : List (List UInt8) → List (List (List UInt8))
  | [] => [[]]
  | [] :: rest => [] :: betweenEmpty rest
  | text :: rest =>
    match betweenEmpty rest with
    | run :: runs => (text :: run) :: runs
    | [] => [[text]]

/-- The runs of texts before, between and after the places where a match may end. Another empty text
right at the beginning tells nothing new. -/
def runs : List (List UInt8) → List (List (List UInt8))
  | [] :: rest => [] :: betweenEmpty (rest.dropWhile List.isEmpty)
  | texts => betweenEmpty texts

/-- Adds the states that read one of the texts: a fork between the runs of texts and the places
where a match may end, and a table of first bytes for each run. -/
def Tally.addTexts : (depth : Nat) → List (List UInt8) → Tally → Tally
  | 0, _, t => t
  | depth + 1, texts, t =>
    if texts.all List.isEmpty then t
    else
      let groups := (runs texts).map byFirst
      let tables := (groups.map List.length).filter (0 < ·)
      let t := t.addFork (tables.length + (groups.length - 1))
      let t := tables.foldl (fun t n => if n = 1 then t.add 1 else t.addTable n) t
      groups.flatten.foldl (fun t group => t.addTexts depth (group.map (·.drop 1))) t

/-! ### Patterns -/

def utf8 (cs : List Char) : List UInt8 := cs.flatMap String.utf8EncodeChar

/-- The texts that a choice is between, if it is one between texts. -/
def Term.texts? : List Term → Option (List (List UInt8))
  | [] => some []
  | .text cs :: rest => (texts? rest).map (utf8 cs :: ·)
  | _ => none

mutual

/-- The least number of bytes of a match. None, if a part of the pattern can never match. -/
def Term.leastLength? : Term → Option Nat
  | .empty => some 0
  | .text cs => some (utf8 cs).length
  | .set s => if s.isEmpty then none else some 1
  | .condition _ => some 0
  | .repeated least _ _ t => t.leastLength?.map (least * ·)
  | .capture t => t.leastLength?
  | .concat ts => Term.leastSum? ts
  | .choice ts => Term.leastOf? ts

def Term.leastSum? : List Term → Option Nat
  | [] => some 0
  | t :: ts => do return (← t.leastLength?) + (← Term.leastSum? ts)

def Term.leastOf? : List Term → Option Nat
  | [] => none
  | [t] => t.leastLength?
  | t :: ts => do return min (← t.leastLength?) (← Term.leastOf? ts)

end

mutual

/-- Whether a match can begin, or with `backward` end, only where a condition holds. -/
def Term.requires (backward : Bool) (c : Condition) : Term → Bool
  | .empty => false
  | .text _ => false
  | .set _ => false
  | .condition d => c == d
  | .repeated least _ _ t => 0 < least && t.requires backward c
  | .capture t => t.requires backward c
  | .concat ts => Term.edgeRequires backward c ts
  | .choice ts => Term.allRequire backward c ts

def Term.edgeRequires (backward : Bool) (c : Condition) : List Term → Bool
  | [] => false
  | t :: ts =>
    if backward then
      Term.edgeRequires backward c ts || (Term.allEmptyOnly ts && t.requires backward c)
    else t.requires backward c || (t.isEmptyOnly && Term.edgeRequires backward c ts)

def Term.allRequire (backward : Bool) (c : Condition) : List Term → Bool
  | [] => true
  | t :: ts => t.requires backward c && Term.allRequire backward c ts

end

mutual

/-- Adds the states of a term. A fork at the end of a part counts the way on among its ways. -/
def Term.count (backward : Bool) : Term → Tally → Tally
  | .empty, t => t.add 1
  | .text cs, t => t.add (utf8 cs).length
  | .set s, t => t.addSet backward s
  | .condition _, t => t.add 1
  | .capture inner, t =>
    if backward then inner.count backward t else (inner.count backward (t.add 1)).add 1
  | .concat ts, t => Term.countAll backward backward ts t
  | .choice ts, t =>
    match Term.texts? ts with
    | some texts =>
      let texts := if backward then texts.map List.reverse else texts
      (t.add 1).addTexts (1 + (texts.map List.length).foldl max 0) texts
    | none => Term.countBranches backward ts t
  | .repeated least greatest _ inner, t =>
    let exactly (n : Nat) (t : Tally) : Tally :=
      if n = 0 then t.add 1 else Tally.repeated (inner.count backward) n t
    match least, greatest with
    | 0, some 1 => (inner.count backward (t.addFork 2)).add 1
    | 0, none =>
      if inner.leastLength?.any (0 < ·) then inner.count backward (t.addFork 2)
      else (((inner.count backward t).addFork 2).addFork 2).add 1
    | n, none => (exactly n t).addFork 2
    | n, some m =>
      if n = m then exactly n t
      else
        let step (t : Tally) : Tally := inner.count backward (t.addFork 2)
        Tally.repeated step (m - n) ((exactly n t).add 1)
termination_by structural x => x

/-- Adds the states of the terms, of the last one first if `lastFirst`. -/
def Term.countAll (backward lastFirst : Bool) : List Term → Tally → Tally
  | [], t => t
  | x :: xs, t =>
    if lastFirst then x.count backward (Term.countAll backward lastFirst xs t)
    else Term.countAll backward lastFirst xs (x.count backward t)
termination_by structural xs => xs

/-- Adds the states of branches, a fork to them and the state where they meet again. -/
def Term.countBranches (backward : Bool) : List Term → Tally → Tally
  | x :: y :: xs, t =>
    let t := y.count backward (x.count backward t)
    Term.countAll backward false xs ((t.addFork (xs.length + 2)).add 1)
  | [x], t => x.count backward t
  | [], t => t
termination_by structural xs => xs

end

/-- The machine of a term. It tries every place to begin at, unless only one can do, and notes where
a match begins and ends when it reads forwards. -/
def Term.machine (backward : Bool) (t : Term) : Tally :=
  let isAnchored := t.requires backward (if backward then .textEnd else .textStart)
  let start : Tally :=
    if isAnchored then Tally.add 1 {} else ((Tally.addFork 2 {}).add 1).addTable 1
  (t.capture.count backward start).add 1

def Matcher.isTooLarge (m : Matcher) : Bool :=
  (m.term.machine false).isTooLarge || (m.term.machine true).isTooLarge

end Attest.Pattern
