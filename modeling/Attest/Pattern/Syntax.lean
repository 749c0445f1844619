import Attest.Pattern.Fault

/-!
Patterns as they are written.

A `Node` is a part of a pattern with the span it takes. What a part means depends on the flags in
force where it stands, so flags are kept as parts of their own.
-/

namespace Attest.Pattern

/-- A switch that changes what the rest of a group means. -/
inductive Flag where
  | ignoreCase
  | multiLine
  | dotMatchesNewline
  | swapGreed
  | unicode
  | crlf
  | ignoreBlanks
deriving DecidableEq, Repr

/-- The letter of a flag. -/
def Flag.ofLetter? : Char → Option Flag
  | 'i' => some .ignoreCase
  | 'm' => some .multiLine
  | 's' => some .dotMatchesNewline
  | 'U' => some .swapGreed
  | 'u' => some .unicode
  | 'R' => some .crlf
  | 'x' => some .ignoreBlanks
  | _ => none

/-- A flag that is switched on or off. -/
structure FlagSetting where
  flag : Flag
  on : Bool
deriving DecidableEq, Repr

/-- A condition on the characters around a place of the text. -/
inductive Anchor where
  | lineStart
  | lineEnd
  | textStart
  | textEnd
  | wordBoundary
  | noWordBoundary
  | wordStart
  | wordEnd
  | wordStartHalf
  | wordEndHalf
deriving DecidableEq, Repr

/-- A character that stands for itself; `byte` tells that it was written `\xNN`. -/
structure Literal where
  char : Char
  byte : Bool
  span : Span
deriving DecidableEq, Repr

/-- The classes with a letter of their own. -/
inductive LetterClass where
  | digit
  | space
  | word
deriving DecidableEq, Repr

/-- The classes with a name between `[:` and `:]`. -/
inductive AsciiClass where
  | alnum
  | alpha
  | ascii
  | blank
  | cntrl
  | digit
  | graph
  | lower
  | print
  | punct
  | space
  | upper
  | word
  | xdigit
deriving DecidableEq, Repr

def AsciiClass.ofName? : String → Option AsciiClass
  | "alnum" => some .alnum
  | "alpha" => some .alpha
  | "ascii" => some .ascii
  | "blank" => some .blank
  | "cntrl" => some .cntrl
  | "digit" => some .digit
  | "graph" => some .graph
  | "lower" => some .lower
  | "print" => some .print
  | "punct" => some .punct
  | "space" => some .space
  | "upper" => some .upper
  | "word" => some .word
  | "xdigit" => some .xdigit
  | _ => none

/-- How a class of a property is asked for. -/
inductive PropertyQuery where
  | named (name : String)
  | valued (name value : String) (negated : Bool)
deriving DecidableEq, Repr

/-- How two classes are combined. -/
inductive ClassOp where
  | intersection
  | difference
  | symmetricDifference
deriving DecidableEq, Repr

/-- A part of a bracketed class. -/
inductive ClassNode where
  | empty
  | literal (l : Literal)
  | range (first last : Literal)
  | ascii (kind : AsciiClass) (negated : Bool) (span : Span)
  | letter (kind : LetterClass) (negated : Bool) (span : Span)
  | property (query : PropertyQuery) (negated : Bool) (span : Span)
  | bracketed (negated : Bool) (body : ClassNode) (span : Span)
  | union (items : List ClassNode) (span : Span)
  | combine (op : ClassOp) (left right : ClassNode) (span : Span)
deriving Repr

/-- A part of a pattern. -/
inductive Node where
  | empty (span : Span)
  | flags (settings : List FlagSetting) (span : Span)
  | literal (l : Literal)
  | dot (span : Span)
  | anchor (kind : Anchor) (span : Span)
  | letter (kind : LetterClass) (negated : Bool) (span : Span)
  | property (query : PropertyQuery) (negated : Bool) (span : Span)
  | bracketed (negated : Bool) (body : ClassNode) (span : Span)
  | repetition (least : Nat) (greatest : Option Nat) (isLazy : Bool) (node : Node) (span : Span)
  | group (captures : Bool) (settings : List FlagSetting) (node : Node) (span : Span)
  | alternation (nodes : List Node) (span : Span)
  | concat (nodes : List Node) (span : Span)
deriving Repr

def Node.span : Node → Span
  | .empty s => s
  | .flags _ s => s
  | .literal l => l.span
  | .dot s => s
  | .anchor _ s => s
  | .letter _ _ s => s
  | .property _ _ s => s
  | .bracketed _ _ s => s
  | .repetition _ _ _ _ s => s
  | .group _ _ _ s => s
  | .alternation _ s => s
  | .concat _ s => s

/-! ### Levels of nesting -/

mutual

/-- The span of the first part of a class that lies deeper than the limit; `depth` levels are left.
-/
def ClassNode.tooDeep? (depth : Nat) : ClassNode → Option Span
  | .bracketed _ body span =>
    match depth with
    | 0 => some span
    | depth + 1 => body.tooDeep? depth
  | .union items span =>
    match depth with
    | 0 => some span
    | depth + 1 => ClassNode.anyTooDeep? depth items
  | .combine _ left right span =>
    match depth with
    | 0 => some span
    | depth + 1 => (left.tooDeep? depth).or (right.tooDeep? depth)
  | _ => none

def ClassNode.anyTooDeep? (depth : Nat) : List ClassNode → Option Span
  | [] => none
  | n :: rest => (n.tooDeep? depth).or (ClassNode.anyTooDeep? depth rest)

end

mutual

/-- The span of the first part that lies deeper than the limit; `depth` levels are left. -/
def Node.tooDeep? (depth : Nat) : Node → Option Span
  | .bracketed _ body span =>
    match depth with
    | 0 => some span
    | depth + 1 => body.tooDeep? depth
  | .repetition _ _ _ node span =>
    match depth with
    | 0 => some span
    | depth + 1 => node.tooDeep? depth
  | .group _ _ node span =>
    match depth with
    | 0 => some span
    | depth + 1 => node.tooDeep? depth
  | .alternation nodes span =>
    match depth with
    | 0 => some span
    | depth + 1 => Node.anyTooDeep? depth nodes
  | .concat nodes span =>
    match depth with
    | 0 => some span
    | depth + 1 => Node.anyTooDeep? depth nodes
  | _ => none

def Node.anyTooDeep? (depth : Nat) : List Node → Option Span
  | [] => none
  | n :: rest => (n.tooDeep? depth).or (Node.anyTooDeep? depth rest)

end

end Attest.Pattern
