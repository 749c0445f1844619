import Attest.Pattern.Escape

/-!
Reading bracketed classes.

A class is a union of characters, ranges and further classes; two ampersands, hyphens or tildes
combine what stands before them with what follows, from left to right. A closing bracket right after
the opening one, and hyphens there, stand for themselves.
-/

namespace Attest.Pattern

open Read

/-- A primitive as a part of a class. -/
def Primitive.toClass : Primitive → Read ClassNode
  | .literal l => return .literal l
  | .property q n s => return .property q n s
  | .letter k n s => return .letter k n s
  | .anchor _ s => fail .classEscapeInvalid s
  | .dot s => fail .classEscapeInvalid s

/-- A primitive as an end of a range. -/
def Primitive.toBound : Primitive → Read Literal
  | .literal l => return l
  | p => fail .classRangeLiteral p.span

/-- Reads a character of a class or an escape. -/
def classPrimitive : Read Primitive := do
  match ← peek with
  | some '\\' => escape
  | some c =>
    let span ← charSpan
    bump
    return .literal ⟨c, false, span⟩
  | none => failHere .classUnclosed

/-- Reads a part of a class, which may be a range. `opened` is the span of the opening of the class,
where a fault is placed if the class does not end. -/
def classRange (opened : Span) : Read (ClassNode × Span) := do
  let first ← classPrimitive
  skipBlanks
  if ← atEnd then fail .classUnclosed opened
  let after ← peekPastBlanks
  if !(← sees '-') || after == some ']' || after == some '-' then
    return (← first.toClass, first.span)
  else
    unless ← advance do fail .classUnclosed opened
    let last ← classPrimitive
    let span : Span := ⟨first.span.start, last.span.stop⟩
    let a ← first.toBound
    let b ← last.toBound
    if a.char ≤ b.char then return (.range a b, span)
    else fail .classRangeInvalid span

/-- Reads `[:name:]`, if that comes next; else stays where it is. -/
def namedClass? : Read (Option (ClassNode × Span)) := do
  let before ← get
  let start ← place
  let back : Read (Option (ClassNode × Span)) := do
    set before
    return none
  if ← accept ['[', ':'] then
    let negated ← accept ['^']
    let s ← get
    let name := s.rest.takeWhile (· ≠ ':')
    name.forM fun _ => bump
    if ← accept [':', ']'] then
      match AsciiClass.ofName? (String.ofList name) with
      | some kind =>
        let span : Span := ⟨start, ← place⟩
        return some (.ascii kind negated span, span)
      | none => back
    else back
  else back

/-- The parts of a class that are joined, in reverse, and the span that they take. -/
structure Joined where
  items : List ClassNode
  span : Span

def Joined.push (j : Joined) (item : ClassNode × Span) : Joined :=
  ⟨item.1 :: j.items, ⟨if j.items.isEmpty then item.2.start else j.span.start, item.2.stop⟩⟩

def Joined.toNode (j : Joined) : ClassNode :=
  match j.items with
  | [] => .empty
  | [item] => item
  | items => .union items.reverse j.span

/-- The left side of an operation and its span, where one is under way. -/
abbrev PendingOp := Option (ClassOp × ClassNode × Span)

/-- Ends an operation under way with the parts read since. -/
def PendingOp.close (pending : PendingOp) (j : Joined) : ClassNode × Span :=
  match pending with
  | none => (j.toNode, j.span)
  | some (op, left, span) =>
    let whole : Span := ⟨span.start, j.span.stop⟩
    (.combine op left j.toNode whole, whole)

/-- Reads literal hyphens at the beginning of a class. -/
def leadingHyphens (start : Place) : (fuel : Nat) → Joined → Read Joined
  | 0, j => return j
  | fuel + 1, j => do
    if ← sees '-' then
      let span ← charSpan
      unless ← advance do fail .classUnclosed ⟨start, start⟩
      leadingHyphens start fuel (j.push (.literal ⟨'-', false, span⟩, span))
    else return j

/-- Reads the opening of a class: the bracket, a caret, hyphens, or a closing bracket that stands
for itself. Returns whether the class is negated, the span of the opening, and the parts read. -/
def classOpening : Read (Bool × Span × Joined) := do
  let start ← place
  unless ← advance do failSince .classUnclosed start
  let negated ← sees '^'
  if negated then
    unless ← advance do failSince .classUnclosed start
  let here ← place
  let j ← leadingHyphens start (← fuel) ⟨[], ⟨here, here⟩⟩
  let j ← do
    if j.items.isEmpty && (← sees ']') then
      let span ← charSpan
      unless ← advance do failSince .classUnclosed start
      pure (j.push (.literal ⟨']', false, span⟩, span))
    else pure j
  return (negated, ⟨start, ← place⟩, j)

/-- The operation whose two characters come next. -/
def classOp? : Read (Option ClassOp) := do
  if ← accept ['&', '&'] then return some .intersection
  else if ← accept ['-', '-'] then return some .difference
  else if ← accept ['~', '~'] then return some .symmetricDifference
  else return none

/-- Reads the parts of a class up to its closing bracket. -/
def classBody (negated : Bool) (opened : Span) :
    (fuel : Nat) → PendingOp → Joined → Read (ClassNode × Span)
  | 0, _, _ => fail .classUnclosed opened
  | fuel + 1, pending, j => do
    skipBlanks
    match ← peek with
    | none => fail .classUnclosed opened
    | some ']' =>
      let body := (pending.close j).1
      bump
      let span : Span := ⟨opened.start, ← place⟩
      return (.bracketed negated body span, span)
    | some '[' =>
      match ← namedClass? with
      | some item => classBody negated opened fuel pending (j.push item)
      | none =>
        let (innerNegated, innerOpened, innerJoined) ← classOpening
        let item ← classBody innerNegated innerOpened fuel none innerJoined
        classBody negated opened fuel pending (j.push item)
    | some _ =>
      match ← classOp? with
      | some op =>
        let (left, span) := pending.close j
        let here ← place
        classBody negated opened fuel (some (op, left, span)) ⟨[], ⟨here, here⟩⟩
      | none =>
        let item ← classRange opened
        classBody negated opened fuel pending (j.push item)

/-- Reads a bracketed class; the bracket comes next. -/
def bracketedClass : Read Node := do
  let steps ← fuel
  let (negated, opened, j) ← classOpening
  match ← classBody negated opened steps none j with
  | (.bracketed negated body span, _) => return .bracketed negated body span
  | (_, span) => fail .classUnclosed span

end Attest.Pattern
