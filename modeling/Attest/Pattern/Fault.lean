import Attest.Console

/-!
Faults in patterns: what is wrong, and the part of the pattern that it concerns.

A place is a line and a column, both from 1, columns in characters; a span is the part between two
places. `Fault.render` shows the pattern with carets under the spans and says what is wrong.
-/

namespace Attest.Pattern

/-- A place in a pattern. -/
structure Place where
  line : Nat := 1
  column : Nat := 1
deriving DecidableEq, Repr

/-- The place after a character. -/
def Place.past (p : Place) (c : Char) : Place :=
  if c = '\n' then ⟨p.line + 1, 1⟩ else ⟨p.line, p.column + 1⟩

/-- The part of a pattern from one place up to another. -/
structure Span where
  start : Place
  stop : Place
deriving DecidableEq, Repr

/-- What is wrong with a pattern. -/
inductive Cause where
  | classEscapeInvalid
  | classRangeInvalid
  | classRangeLiteral
  | classUnclosed
  | decimalInvalid
  | escapeHexEmpty
  | escapeHexInvalid
  | escapeHexInvalidDigit
  | escapeAtEnd
  | escapeUnrecognized
  | flagDanglingNegation
  | flagDuplicate
  | flagRepeatedNegation
  | flagAtEnd
  | flagUnrecognized
  | groupNameDuplicate
  | groupNameEmpty
  | groupNameInvalid
  | groupNameAtEnd
  | groupUnclosed
  | groupUnopened
  | nestedTooDeep
  | countInvalid
  | countNotDecimal
  | countUnclosed
  | repetitionMissing
  | wordBoundaryUnclosed
  | wordBoundaryUnrecognized
  | wordBoundaryAtEnd
  | unicodeClassInvalid
  | backreference
  | lookAround
  | unicodeNotAllowed
  | malformedText
  | propertyNotFound
  | propertyValueNotFound
deriving DecidableEq, Repr

/-- How many levels of nesting a pattern may have. -/
def nestLimit : Nat := 250

def Cause.message : Cause → String
  | .classEscapeInvalid => "invalid escape sequence found in character class"
  | .classRangeInvalid => "invalid character class range, the start must be <= the end"
  | .classRangeLiteral => "invalid range boundary, must be a literal"
  | .classUnclosed => "unclosed character class"
  | .decimalInvalid => "decimal literal invalid"
  | .escapeHexEmpty => "hexadecimal literal empty"
  | .escapeHexInvalid => "hexadecimal literal is not a Unicode scalar value"
  | .escapeHexInvalidDigit => "invalid hexadecimal digit"
  | .escapeAtEnd => "incomplete escape sequence, reached end of pattern prematurely"
  | .escapeUnrecognized => "unrecognized escape sequence"
  | .flagDanglingNegation => "dangling flag negation operator"
  | .flagDuplicate => "duplicate flag"
  | .flagRepeatedNegation => "flag negation operator repeated"
  | .flagAtEnd => "expected flag but got end of regex"
  | .flagUnrecognized => "unrecognized flag"
  | .groupNameDuplicate => "duplicate capture group name"
  | .groupNameEmpty => "empty capture group name"
  | .groupNameInvalid => "invalid capture group character"
  | .groupNameAtEnd => "unclosed capture group name"
  | .groupUnclosed => "unclosed group"
  | .groupUnopened => "unopened group"
  | .nestedTooDeep =>
    s!"exceed the maximum number of nested parentheses/brackets ({nestLimit})"
  | .countInvalid => "invalid repetition count range, the start must be <= the end"
  | .countNotDecimal => "repetition quantifier expects a valid decimal"
  | .countUnclosed => "unclosed counted repetition"
  | .repetitionMissing => "repetition operator missing expression"
  | .wordBoundaryUnclosed =>
    "special word boundary assertion is either unclosed or contains an invalid character"
  | .wordBoundaryUnrecognized =>
    "unrecognized special word boundary assertion, valid choices are: start, end, start-half or end-half"
  | .wordBoundaryAtEnd =>
    "found either the beginning of a special word boundary or a bounded repetition on a \\b with an opening brace, but no closing brace"
  | .unicodeClassInvalid => "invalid Unicode character class"
  | .backreference => "backreferences are not supported"
  | .lookAround => "look-around, including look-ahead and look-behind, is not supported"
  | .unicodeNotAllowed => "Unicode not allowed here"
  | .malformedText => "pattern can match invalid UTF-8"
  | .propertyNotFound => "Unicode property not found"
  | .propertyValueNotFound => "Unicode property value not found"

/-- A cause, the span it concerns and, where a thing occurs twice, the span of the first. -/
structure Fault where
  cause : Cause
  span : Span
  earlier : Option Span := none
deriving DecidableEq, Repr

namespace Fault

def spans (f : Fault) : List Span :=
  match f.earlier with
  | some s => [s, f.span]
  | none => [f.span]

/-- Carets under the spans, which lie on one line and come in order; an empty span has one caret.
`column` is the number of columns already filled. -/
def carets : (column : Nat) → List Span → List Char
  | _, [] => []
  | column, s :: rest =>
    let blanks := s.start.column - 1 - column
    let width := max 1 (s.stop.column - s.start.column)
    List.replicate blanks ' ' ++ List.replicate width '^' ++ carets (column + blanks + width) rest

/-- The line with its margin, and the carets under it, if it has any. -/
def renderLine (margin : String) (indent : Nat) (spans : List Span) (line : String) : String :=
  let marks := if spans.isEmpty then ""
    else String.ofList (List.replicate indent ' ' ++ carets 0 spans) ++ "\n"
  margin ++ line ++ "\n" ++ marks

def padLeft (width : Nat) (s : String) : String :=
  String.ofList (List.replicate (width - s.length) ' ') ++ s

/-- The pattern with carets, and what is wrong. A pattern of several lines has its lines numbered
and stands between rules; a span over several lines is told in words. -/
def render (f : Fault) (pattern : String) : String :=
  let cs := pattern.toList
  let shown := lines pattern
  let count := shown.length + if cs.getLast? = some '\n' then 1 else 0
  let width := if count ≤ 1 then 0 else (toString count).length
  let onOneLine := f.spans.filter fun s => s.start.line = s.stop.line
  let across := f.spans.filter fun s => s.start.line ≠ s.stop.line
  let renderNumbered (i : Nat) (line : String) : String :=
    let marks := onOneLine.filter fun s => s.start.line = i + 1
    if width = 0 then renderLine "    " 4 marks line
    else renderLine (padLeft width (toString (i + 1)) ++ ": ") (width + 2) marks line
  let notated := String.join (shown.mapIdx renderNumbered)
  if cs.contains '\n' then
    let rule := String.ofList (List.replicate 79 '~') ++ "\n"
    let note (s : Span) : String :=
      s!"on line {s.start.line} (column {s.start.column}) through line {s.stop.line} (column {s.stop.column - 1})\n"
    "regex parse error:\n" ++ rule ++ notated ++ rule ++ String.join (across.map note)
      ++ "error: " ++ f.cause.message
  else "regex parse error:\n" ++ notated ++ "error: " ++ f.cause.message

end Fault

end Attest.Pattern
