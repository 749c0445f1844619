import Attest.Json.Scan

/-!
Reading JSON documents.

`Json.read` accepts one document with blanks around it. Arrays and objects may lie inside each other
up to a limit of levels; of members with equal names the last counts. The reader looks at the text
once from left to right, so the first fault in the text is the one reported.
-/

namespace Attest.Json

/-- Why a text is no JSON document, and where. -/
structure ReadError where
  cause : Cause
  position : Position
deriving Repr

def ReadError.message (e : ReadError) : String :=
  s!"{e.cause.message} at line {e.position.line} column {e.position.column}"

/-- The levels of arrays and objects that a document may have. -/
def depthLimit : Nat := 127

mutual

/-- Reads a value; arrays and objects may be `depth` levels deep. Every step takes a character, so
as much fuel as there are characters, and one more, suffices. -/
def scanValue : (fuel depth : Nat) → List Char → Scan Cause (Json × List Char)
  | 0, _, _ => failAt .endInValue []
  | fuel + 1, depth, s =>
    match skipBlanks s with
    | [] => failAt .endInValue []
    | 'n' :: s => do .ok (.null, ← scanWord ['u', 'l', 'l'] s)
    | 't' :: s => do .ok (.bool true, ← scanWord ['r', 'u', 'e'] s)
    | 'f' :: s => do .ok (.bool false, ← scanWord ['a', 'l', 's', 'e'] s)
    | '"' :: s => do
      let (text, s) ← scanString s
      .ok (.string text, s)
    | '-' :: s => scanNumber true s
    | '[' :: s =>
      match depth with
      | 0 => failIn .tooDeep ('[' :: s)
      | depth + 1 => do
        let (items, s) ← scanItems fuel depth true s
        .ok (.array items, s)
    | '{' :: s =>
      match depth with
      | 0 => failIn .tooDeep ('{' :: s)
      | depth + 1 => do
        let (members, s) ← scanMembers fuel depth true s
        .ok (.object (ofMembers members), s)
    | c :: s => if isDigit c then scanNumber false (c :: s) else failIn .expectedValue (c :: s)
termination_by structural fuel => fuel

/-- Reads the items of an array up to its closing bracket. -/
def scanItems : (fuel depth : Nat) → (first : Bool) → List Char →
    Scan Cause (List Json × List Char)
  | 0, _, _, _ => failAt .endInList []
  | fuel + 1, depth, first, s =>
    match skipBlanks s with
    | [] => failAt .endInList []
    | ']' :: s => .ok ([], s)
    | c :: s =>
      if first then do
        let (v, s) ← scanValue fuel depth (c :: s)
        let (vs, s) ← scanItems fuel depth false s
        .ok (v :: vs, s)
      else if c = ',' then
        match skipBlanks s with
        | [] => failAt .endInValue []
        | ']' :: s => failIn .trailingComma (']' :: s)
        | s => do
          let (v, s) ← scanValue fuel depth s
          let (vs, s) ← scanItems fuel depth false s
          .ok (v :: vs, s)
      else failIn .expectedListEnd (c :: s)
termination_by structural fuel => fuel

/-- Reads the members of an object up to its closing brace. -/
def scanMembers : (fuel depth : Nat) → (first : Bool) → List Char →
    Scan Cause (List (String × Json) × List Char)
  | 0, _, _, _ => failAt .endInObject []
  | fuel + 1, depth, first, s =>
    match skipBlanks s with
    | [] => failAt .endInObject []
    | '}' :: s => .ok ([], s)
    | c :: s =>
      if first then
        if c = '"' then scanMember fuel depth s else failIn .keyNotString (c :: s)
      else if c = ',' then
        match skipBlanks s with
        | [] => failAt .endInValue []
        | '"' :: s => scanMember fuel depth s
        | '}' :: s => failIn .trailingComma ('}' :: s)
        | s => failIn .keyNotString s
      else failIn .expectedObjectEnd (c :: s)
termination_by structural fuel => fuel

/-- Reads a member whose opening quote has been read, and the members after it. -/
def scanMember : (fuel depth : Nat) → List Char → Scan Cause (List (String × Json) × List Char)
  | 0, _, _ => failAt .endInObject []
  | fuel + 1, depth, s => do
    let (key, s) ← scanString s
    match skipBlanks s with
    | [] => failAt .endInObject []
    | ':' :: s => do
      let (v, s) ← scanValue fuel depth s
      let (ms, s) ← scanMembers fuel depth false s
      .ok ((key, v) :: ms, s)
    | s => failIn .expectedColon s
termination_by structural fuel => fuel

end

/-- Reads a document whose arrays and objects are at most `depth` levels deep. -/
def scanDocument (depth : Nat) (s : List Char) : Scan Cause Json := do
  let (v, rest) ← scanValue (2 * s.length + 2) depth s
  match skipBlanks rest with
  | [] => .ok v
  | rest => failIn .trailingCharacters rest

/-- Reads a document of at most `depth` levels. -/
def readWithin (depth : Nat) (text : String) : Except ReadError Json :=
  match scanDocument depth text.toList with
  | .ok v => .ok v
  | .error fault => .error ⟨fault.cause, Position.of text.toList fault⟩

/-- Reads a document. -/
def read (text : String) : Except ReadError Json := readWithin depthLimit text

end Attest.Json
