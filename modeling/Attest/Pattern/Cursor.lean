import Attest.Pattern.Syntax
import Attest.Unicode.WhiteSpace

/-!
The cursor that moves along a pattern while it is read.

It knows its place, what is left, whether blanks and comments are skipped, and which names have been
given to groups. `Read` is reading with a cursor: it goes on from where the cursor stands, or stops
at the first fault.
-/

namespace Attest.Pattern

/-- Where reading stands: the place, what is left, whether blanks and comments are skipped, and the
names of groups given so far. -/
structure Reading where
  place : Place := {}
  rest : List Char
  skipping : Bool := false
  names : List (String × Span) := []

abbrev Read := StateT Reading (Except Fault)

namespace Read

def place : Read Place := do return (← get).place

def fail {α : Type} (cause : Cause) (span : Span) : Read α := throw ⟨cause, span, none⟩

/-- A fault in the part from `start` up to here. -/
def failSince {α : Type} (cause : Cause) (start : Place) : Read α := do
  fail cause ⟨start, ← place⟩

/-- A fault at this place. -/
def failHere {α : Type} (cause : Cause) : Read α := do
  let p ← place
  fail cause ⟨p, p⟩

def peek : Read (Option Char) := do return (← get).rest.head?

def atEnd : Read Bool := do return (← get).rest.isEmpty

/-- Whether the next character is `c`. -/
def sees (c : Char) : Read Bool := do return (← peek) == some c

/-- Takes the next character. -/
def bump : Read Unit := modify fun s =>
  match s.rest with
  | [] => s
  | c :: rest => { s with place := s.place.past c, rest := rest }

/-- The span of the next character. -/
def charSpan : Read Span := do
  let s ← get
  return ⟨s.place, match s.rest with | [] => s.place | c :: _ => s.place.past c⟩

def failChar {α : Type} (cause : Cause) : Read α := do fail cause (← charSpan)

/-- Takes the characters of `text` if they come next. -/
def accept (text : List Char) : Read Bool := do
  if text.isPrefixOf (← get).rest then
    text.forM fun _ => bump
    return true
  else return false

/-- The place after blanks and comments; a comment runs from a hash to the end of its line. -/
def pastBlanks : (comment : Bool) → Place → List Char → Place × List Char
  | _, p, [] => (p, [])
  | true, p, c :: rest => pastBlanks (c ≠ '\n') (p.past c) rest
  | false, p, c :: rest =>
    if Unicode.isWhiteSpace c then pastBlanks false (p.past c) rest
    else if c = '#' then pastBlanks true (p.past c) rest
    else (p, c :: rest)

/-- Skips blanks and comments, where that flag is on. -/
def skipBlanks : Read Unit := modify fun s =>
  if s.skipping then
    let (place, rest) := pastBlanks false s.place s.rest
    { s with place := place, rest := rest }
  else s

/-- Takes the next character and the blanks after it, and says whether there is more. -/
def advance : Read Bool := do
  bump
  skipBlanks
  return !(← atEnd)

/-- The character that comes next but one, blanks skipped where that flag is on. -/
def peekPastBlanks : Read (Option Char) := do
  let s ← get
  return if s.skipping then (pastBlanks false s.place s.rest.tail).2.head? else s.rest.tail.head?

/-- Takes the characters of a class, and the blanks after each; returns them. -/
def takeWhile (p : Char → Bool) : (fuel : Nat) → Read (List Char)
  | 0 => return []
  | fuel + 1 => do
    match ← peek with
    | some c =>
      if p c then
        let _ ← advance
        return c :: (← takeWhile p fuel)
      else return []
    | none => return []

/-- As many steps as there are characters left suffice for any loop. -/
def fuel : Read Nat := do return (← get).rest.length + 1

end Read

end Attest.Pattern
