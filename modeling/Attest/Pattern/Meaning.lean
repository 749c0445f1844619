import Attest.Pattern.Matcher
import Attest.Pattern.Reader
import Attest.Pattern.Size

/-!
What a pattern means.

Flags hold from where they stand to the end of their group, across its branches. A class is first
closed under case folding, where case is ignored, and then negated. Without the Unicode flag classes
are those of ASCII, and a class that could match part of a character is refused.
-/

namespace Attest.Pattern

open Unicode (CodeSet)

/-- The flags in force. -/
structure Flags where
  ignoreCase : Bool := false
  multiLine : Bool := false
  dotMatchesNewline : Bool := false
  unicode : Bool := true
  crlf : Bool := false
  swapGreed : Bool := false
deriving DecidableEq, Repr

def Flags.apply (f : Flags) (s : FlagSetting) : Flags :=
  match s.flag with
  | .ignoreCase => { f with ignoreCase := s.on }
  | .multiLine => { f with multiLine := s.on }
  | .dotMatchesNewline => { f with dotMatchesNewline := s.on }
  | .unicode => { f with unicode := s.on }
  | .crlf => { f with crlf := s.on }
  | .swapGreed => { f with swapGreed := s.on }
  | .ignoreBlanks => f

def Flags.applyAll (f : Flags) (settings : List FlagSetting) : Flags := settings.foldl Flags.apply f

/-- The letters of ASCII with their other case. -/
def asciiFold (s : CodeSet) : CodeSet :=
  let lower := (s.inter (.ofTable "41-5A")).ranges.map fun r => (r.1 + 32, r.2 + 32)
  let upper := (s.inter (.ofTable "61-7A")).ranges.map fun r => (r.1 - 32, r.2 - 32)
  s.union (CodeSet.ofRanges (lower ++ upper))

def Flags.fold (f : Flags) (s : CodeSet) : CodeSet :=
  if !f.ignoreCase then s else if f.unicode then Unicode.foldClosure s else asciiFold s

def refuse {α : Type} (cause : Cause) (span : Span) : Except Fault α := .error ⟨cause, span, none⟩

/-- Without the Unicode flag a set is a set of bytes, of which only those of ASCII are characters.
-/
def Flags.checked (f : Flags) (s : CodeSet) (span : Span) : Except Fault CodeSet :=
  if f.unicode || s.isAscii then .ok s else refuse .malformedText span

/-- Folds where case is ignored, and negates. -/
def Flags.finish (f : Flags) (negated : Bool) (s : CodeSet) : CodeSet :=
  if negated then (f.fold s).complement else f.fold s

def letterSet (f : Flags) (kind : LetterClass) (negated : Bool) (span : Span) :
    Except Fault CodeSet :=
  let set := kind.set f.unicode
  f.checked (if negated then set.complement else set) span

def propertySet (f : Flags) (query : PropertyQuery) (negated : Bool) (span : Span) :
    Except Fault CodeSet :=
  if f.unicode then
    match query.set with
    | .ok set => .ok (f.finish (negated != query.isNegated) set)
    | .error cause => refuse cause span
  else refuse .unicodeNotAllowed span

/-- The character of a literal in a class. Without the Unicode flag it must be one of ASCII. -/
def literalCode (f : Flags) (l : Literal) : Except Fault Nat :=
  if f.unicode || l.char.toNat < 0x80 then .ok l.char.toNat
  else if l.byte then refuse .malformedText l.span
  else refuse .unicodeNotAllowed l.span

mutual

/-- The set of a part of a class. -/
def ClassNode.set (f : Flags) : ClassNode → Except Fault CodeSet
  | .empty => .ok .empty
  | .literal l => do
    let n ← literalCode f l
    return .range n n
  | .range a b => do return .range (← literalCode f a) (← literalCode f b)
  | .ascii kind negated span => f.checked (f.finish negated kind.set) span
  | .letter kind negated span => letterSet f kind negated span
  | .property query negated span => propertySet f query negated span
  | .bracketed negated body span => do f.checked (f.finish negated (← body.set f)) span
  | .union items _ => ClassNode.unionSet f items
  | .combine op left right _ => do
    let a := f.fold (← left.set f)
    let b := f.fold (← right.set f)
    return match op with
      | .intersection => a.inter b
      | .difference => a.diff b
      | .symmetricDifference => a.symmDiff b

def ClassNode.unionSet (f : Flags) : List ClassNode → Except Fault CodeSet
  | [] => .ok .empty
  | n :: rest => do return (← n.set f).union (← ClassNode.unionSet f rest)

end

def literalMatcher (f : Flags) (l : Literal) : Except Fault Matcher :=
  if !f.unicode && l.byte && 0x80 ≤ l.char.toNat then refuse .malformedText l.span
  else .ok (.one (f.fold (.single l.char)))

def dotSet (f : Flags) : CodeSet :=
  if f.dotMatchesNewline then .all
  else if f.crlf then CodeSet.all.diff (.ofTable "A D")
  else CodeSet.all.diff (.ofTable "A")

def anchorCondition (f : Flags) : Anchor → Condition
  | .lineStart =>
    if !f.multiLine then .textStart else if f.crlf then .crlfLineStart else .lineStart
  | .lineEnd => if !f.multiLine then .textEnd else if f.crlf then .crlfLineEnd else .lineEnd
  | .textStart => .textStart
  | .textEnd => .textEnd
  | kind => .word kind f.unicode

mutual

/-- The matcher of a part of a pattern, and the flags in force after it. -/
def Node.meaning (f : Flags) : Node → Except Fault (Matcher × Flags)
  | .empty _ => .ok (.nothing, f)
  | .flags settings _ => .ok (.nothing, f.applyAll settings)
  | .literal l => do return (← literalMatcher f l, f)
  | .dot span => if f.unicode then .ok (.one (dotSet f), f) else refuse .malformedText span
  | .anchor kind _ => .ok (.condition (anchorCondition f kind), f)
  | .letter kind negated span => do return (.one (← letterSet f kind negated span), f)
  | .property query negated span => do return (.one (← propertySet f query negated span), f)
  | .bracketed negated body span => do
    return (.one (← f.checked (f.finish negated (← body.set f)) span), f)
  | .repetition least greatest isLazy node _ => do
    let (m, f) ← node.meaning f
    return (.repeated least greatest (isLazy == f.swapGreed) m, f)
  | .group captures settings node _ => do
    let (m, _) ← node.meaning (f.applyAll settings)
    return (.group captures m, f)
  | .alternation nodes _ => Node.meaningOfBranches f nodes
  | .concat nodes _ => Node.meaningOfSequence f nodes

def Node.meaningOfBranches (f : Flags) : List Node → Except Fault (Matcher × Flags)
  | [] => .ok (.nothing, f)
  | [n] => n.meaning f
  | n :: m :: rest => do
    let (a, f) ← n.meaning f
    let (b, f) ← Node.meaningOfBranches f (m :: rest)
    return (.either a b, f)

def Node.meaningOfSequence (f : Flags) : List Node → Except Fault (Matcher × Flags)
  | [] => .ok (.nothing, f)
  | n :: rest => do
    let (a, f) ← n.meaning f
    let (b, f) ← Node.meaningOfSequence f rest
    return (.seq a b, f)

end

/-- Why a text is no pattern. -/
inductive CompileError where
  | malformed (fault : Fault)
  | tooLarge
deriving DecidableEq, Repr

def CompileError.message (pattern : String) : CompileError → String
  | .malformed fault => fault.render pattern
  | .tooLarge => s!"Compiled regex exceeds size limit of {sizeLimit} bytes."

/-- The matcher that a text describes. -/
def describe (pattern : String) : Except Fault Matcher := do
  let node ← Node.read pattern
  let (m, _) ← node.meaning {}
  return m

/-- Reads a pattern. -/
def compile (pattern : String) : Except CompileError Matcher :=
  match describe pattern with
  | .error fault => .error (.malformed fault)
  | .ok m => if m.isTooLarge then .error .tooLarge else .ok m

end Attest.Pattern
