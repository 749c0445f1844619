import Attest.Pattern.Cursor

/-!
Escapes: what a backslash makes of the characters after it.

An escape stands for a character, for a place between characters, or for a class; inside the
brackets of a class it means the same as outside, but for the places, which have no meaning there.
-/

namespace Attest.Pattern

open Read

/-- What is read of a literal or a class, inside and outside of brackets. -/
inductive Primitive where
  | literal (l : Literal)
  | anchor (kind : Anchor) (span : Span)
  | dot (span : Span)
  | property (query : PropertyQuery) (negated : Bool) (span : Span)
  | letter (kind : LetterClass) (negated : Bool) (span : Span)

def Primitive.span : Primitive → Span
  | .literal l => l.span
  | .anchor _ s => s
  | .dot s => s
  | .property _ _ s => s
  | .letter _ _ s => s

def Primitive.toNode : Primitive → Node
  | .literal l => .literal l
  | .anchor k s => .anchor k s
  | .dot s => .dot s
  | .property q n s => .property q n s
  | .letter k n s => .letter k n s

/-- The characters that mean something of their own; a backslash takes that away. -/
def metaChars : List Char :=
  ['\\', '.', '+', '*', '?', '(', ')', '|', '[', ']', '{', '}', '^', '$', '#', '&', '-', '~']

/-- Whether a backslash may stand before the character, which then stands for itself. -/
def isEscapable (c : Char) : Bool :=
  metaChars.contains c || (c.toNat < 0x80 && !c.isAlphanum && c ≠ '<' && c ≠ '>')

/-- The character with the code that the digits give. -/
def charOfHex? (digits : List Char) : Option Char :=
  let n := digits.foldl (fun n c => n * 16 + (Text.hexDigit? c).getD 0) 0
  if h : n.isValidChar then some (Char.ofNatAux n h) else none

def isHex (c : Char) : Bool := (Text.hexDigit? c).isSome

/-- Reads exactly `count` digits, of which the first comes next; what follows may be the end. -/
def hexDigits : (count : Nat) → Read (List Char)
  | 0 => return []
  | count + 1 => do
    match ← peek with
    | none => failHere .escapeAtEnd
    | some c =>
      if isHex c then
        let _ ← advance
        return c :: (← hexDigits count)
      else failChar .escapeHexInvalidDigit

/-- Reads digits up to a closing brace. -/
def hexBraced (brace : Place) : (fuel : Nat) → Read (List Char)
  | 0 => failSince .escapeAtEnd brace
  | fuel + 1 => do
    match ← peek with
    | none => failSince .escapeAtEnd brace
    | some '}' => return []
    | some c =>
      if isHex c then
        let _ ← advance
        return c :: (← hexBraced brace fuel)
      else failChar .escapeHexInvalidDigit

/-- Reads the code of a character after `\x`, `\u` or `\U`; the letter comes next. -/
def hexLiteral (start : Place) (letter : Char) : Read Literal := do
  unless ← advance do failHere .escapeAtEnd
  if ← sees '{' then
    let brace ← place
    bump
    let first ← place
    skipBlanks
    let digits ← hexBraced brace (← fuel)
    let last ← place
    let _ ← advance
    if digits.isEmpty then failSince .escapeHexEmpty brace
    else
      match charOfHex? digits with
      | some c => return ⟨c, false, ⟨start, ← place⟩⟩
      | none => fail .escapeHexInvalid ⟨first, last⟩
  else
    let first ← place
    let digits ← hexDigits (if letter = 'x' then 2 else if letter = 'u' then 4 else 8)
    let last ← place
    match charOfHex? digits with
    | some c => return ⟨c, letter = 'x', ⟨start, last⟩⟩
    | none => fail .escapeHexInvalid ⟨first, last⟩

/-- Cuts a list at the first place where `sep` occurs. -/
def cutAt (sep : List Char) : List Char → Option (List Char × List Char)
  | [] => none
  | c :: rest =>
    if sep.isPrefixOf (c :: rest) then some ([], (c :: rest).drop sep.length)
    else (cutAt sep rest).map fun (a, b) => (c :: a, b)

/-- What the text between the braces of `\p` asks for. -/
def PropertyQuery.ofChars (cs : List Char) : PropertyQuery :=
  let valued (negated : Bool) (parts : List Char × List Char) : PropertyQuery :=
    .valued (String.ofList parts.1) (String.ofList parts.2) negated
  match cutAt ['!', '='] cs, cutAt [':'] cs, cutAt ['='] cs with
  | some parts, _, _ => valued true parts
  | none, some parts, _ => valued false parts
  | none, none, some parts => valued false parts
  | none, none, none => .named (String.ofList cs)

/-- Reads the class of a property; the letter after the backslash comes next. -/
def propertyClass (start : Place) : Read Primitive := do
  let negated ← sees 'P'
  unless ← advance do failHere .escapeAtEnd
  if ← sees '{' then
    let _ ← advance
    let name ← takeWhile (· ≠ '}') (← fuel)
    if ← atEnd then failHere .escapeAtEnd
    bump
    return .property (.ofChars name) negated ⟨start, ← place⟩
  else
    match ← peek with
    | none => failHere .escapeAtEnd
    | some '\\' => failChar .unicodeClassInvalid
    | some c =>
      let _ ← advance
      return .property (.named (String.singleton c)) negated ⟨start, ← place⟩

def isBoundaryChar (c : Char) : Bool := c.isAlpha || c = '-'

/-- Reads the braces after `\b`, unless they can only be those of a repetition. -/
def boundaryKind? (start : Place) : Read (Option Anchor) := do
  let before ← get
  let brace ← place
  unless ← advance do failSince .wordBoundaryAtEnd start
  let first ← place
  match ← peek with
  | some c =>
    if !isBoundaryChar c then
      set before
      return none
    let word ← takeWhile isBoundaryChar (← fuel)
    unless ← sees '}' do failSince .wordBoundaryUnclosed brace
    let last ← place
    bump
    match String.ofList word with
    | "start" => return some .wordStart
    | "end" => return some .wordEnd
    | "start-half" => return some .wordStartHalf
    | "end-half" => return some .wordEndHalf
    | _ => fail .wordBoundaryUnrecognized ⟨first, last⟩
  | none => failSince .wordBoundaryAtEnd start

/-- The control characters that have a letter. -/
def controlLetter? : Char → Option Char
  | 'a' => some '\x07'
  | 'f' => some '\x0c'
  | 't' => some '\t'
  | 'n' => some '\n'
  | 'r' => some '\r'
  | 'v' => some '\x0b'
  | _ => none

def letterClass? : Char → Option (LetterClass × Bool)
  | 'd' => some (.digit, false)
  | 'D' => some (.digit, true)
  | 's' => some (.space, false)
  | 'S' => some (.space, true)
  | 'w' => some (.word, false)
  | 'W' => some (.word, true)
  | _ => none

def anchorLetter? : Char → Option Anchor
  | 'A' => some .textStart
  | 'z' => some .textEnd
  | 'B' => some .noWordBoundary
  | '<' => some .wordStart
  | '>' => some .wordEnd
  | _ => none

/-- Reads an escape; the backslash comes next. -/
def escape : Read Primitive := do
  let start ← place
  bump
  match ← peek with
  | none => failSince .escapeAtEnd start
  | some c =>
    if '0' ≤ c ∧ c ≤ '9' then
      fail .backreference ⟨start, (← charSpan).stop⟩
    else if c = 'x' ∨ c = 'u' ∨ c = 'U' then return .literal (← hexLiteral start c)
    else if c = 'p' ∨ c = 'P' then propertyClass start
    else
      bump
      let span : Span := ⟨start, ← place⟩
      if let some (kind, negated) := letterClass? c then return .letter kind negated span
      else if isEscapable c then return .literal ⟨c, false, span⟩
      else if let some control := controlLetter? c then return .literal ⟨control, false, span⟩
      else if let some kind := anchorLetter? c then return .anchor kind span
      else if c = 'b' then
        if ← sees '{' then
          match ← boundaryKind? start with
          | some kind => return .anchor kind ⟨start, ← place⟩
          | none => return .anchor .wordBoundary span
        else return .anchor .wordBoundary span
      else fail .escapeUnrecognized span

end Attest.Pattern
