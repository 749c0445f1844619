import Attest.Json.Scan

/-!
Passing over JSON values that nobody asked for.

A skipped value is only looked at as far as finding its end takes: its levels are not counted,
halves of characters may stand alone in its strings and its numbers may lie out of range. So every
value that can be read can be skipped, and the faults that remain have the same causes, though not
always the same place, as when reading.
-/

namespace Attest.Json

/-- Passes over what stands after a backslash. -/
def skipEscape : List Char → Scan Cause (List Char)
  | [] => failAt .endInString []
  | 'u' :: s => do
    let (_, s) ← scanHex s
    .ok s
  | c :: s =>
    if ['"', '\\', '/', 'b', 'f', 'n', 'r', 't'].contains c then .ok s
    else failIn .invalidEscape (c :: s)

/-- Passes over the characters of a string after its opening quote, and over the closing one. Each
step takes a character. -/
def skipChars : (fuel : Nat) → List Char → Scan Cause (List Char)
  | 0, _ => failAt .endInString []
  | _ + 1, [] => failAt .endInString []
  | _ + 1, '"' :: s => .ok s
  | fuel + 1, '\\' :: s => do skipChars fuel (← skipEscape s)
  | fuel + 1, c :: s =>
    if c.toNat < 0x20 then failAt .controlCharacter (c :: s) else skipChars fuel s

/-- Passes over a string whose opening quote has been read. -/
def skipString (s : List Char) : Scan Cause (List Char) := skipChars (s.length + 1) s

/-- Passes over one digit or more. -/
def skipDigits : List Char → Scan Cause (List Char)
  | [] => failAt .invalidNumber []
  | c :: s => if isDigit c then .ok (s.dropWhile isDigit) else failIn .invalidNumber (c :: s)

/-- Passes over an exponent, if there is one. -/
def skipExponent (s : List Char) : Scan Cause (List Char) :=
  let afterLetter (s : List Char) :=
    match s with
    | '+' :: s => skipDigits s
    | '-' :: s => skipDigits s
    | s => skipDigits s
  match s with
  | 'e' :: s => afterLetter s
  | 'E' :: s => afterLetter s
  | s => .ok s

/-- Passes over a number whose sign has been read. -/
def skipNumber (s : List Char) : Scan Cause (List Char) := do
  let s ← match s with
    | '0' :: c :: s => if isDigit c then failIn .invalidNumber (c :: s) else .ok (c :: s)
    | s => skipDigits s
  match s with
  | '.' :: s => do skipExponent (← skipDigits s)
  | s => skipExponent s

mutual

/-- Passes over a value. Every step takes a character, so twice as much fuel as there are
characters, and a little more, suffices. -/
def skipWithin : (fuel : Nat) → List Char → Scan Cause (List Char)
  | 0, _ => failAt .endInValue []
  | fuel + 1, s =>
    match skipBlanks s with
    | [] => failAt .endInValue []
    | 'n' :: s => scanWord ['u', 'l', 'l'] s
    | 't' :: s => scanWord ['r', 'u', 'e'] s
    | 'f' :: s => scanWord ['a', 'l', 's', 'e'] s
    | '"' :: s => skipString s
    | '-' :: s => skipNumber s
    | '[' :: s => skipItems fuel true s
    | '{' :: s => skipMembers fuel true s
    | c :: s => if isDigit c then skipNumber (c :: s) else failIn .expectedValue (c :: s)

/-- Passes over the items of an array and its closing bracket. -/
def skipItems : (fuel : Nat) → (first : Bool) → List Char → Scan Cause (List Char)
  | 0, _, _ => failAt .endInList []
  | fuel + 1, first, s =>
    match skipBlanks s with
    | [] => failAt .endInList []
    | ']' :: s => .ok s
    | c :: s =>
      if first then do skipItems fuel false (← skipWithin fuel (c :: s))
      else if c = ',' then do skipItems fuel false (← skipWithin fuel s)
      else failIn .expectedListEnd (c :: s)

/-- Passes over the members of an object and its closing brace. -/
def skipMembers : (fuel : Nat) → (first : Bool) → List Char → Scan Cause (List Char)
  | 0, _, _ => failAt .endInObject []
  | fuel + 1, first, s =>
    match skipBlanks s with
    | [] => failAt .endInObject []
    | '}' :: s => .ok s
    | c :: s =>
      if first then skipMember fuel (c :: s)
      else if c = ',' then skipMember fuel (skipBlanks s)
      else failIn .expectedObjectEnd (c :: s)

/-- Passes over a member and those after it. -/
def skipMember : (fuel : Nat) → List Char → Scan Cause (List Char)
  | 0, _ => failAt .endInObject []
  | _ + 1, [] => failAt .endInObject []
  | fuel + 1, '"' :: s => do
    match skipBlanks (← skipString s) with
    | [] => failAt .endInObject []
    | ':' :: s => do skipMembers fuel false (← skipWithin fuel s)
    | s => failIn .expectedColon s
  | _ + 1, s => failIn .keyNotString s

end

/-- Passes over a value. -/
def skipValue (s : List Char) : Scan Cause (List Char) := skipWithin (2 * s.length + 2) s

end Attest.Json
