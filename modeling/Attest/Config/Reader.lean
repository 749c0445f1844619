import Attest.Config.Basic
import Attest.Json.Reader
import Attest.Json.Skip

/-!
Reading configuration documents.

A configuration is a JSON object with any of the four members, in any order and among others that
are passed over, or an array of their values in the order of `Config.Field.all`. What is left out
keeps its default. A choice is written as a word or as an object with that word as its one name and
null as its value. A member may not be given twice.
-/

namespace Attest.Config

open Json (Scan failAt failIn skipBlanks)

/-- What a value in a configuration is wanted for. -/
inductive Wanted where
  | config
  | word
  | nothing
  | flag
  | count
deriving DecidableEq, Repr

def Wanted.text : Wanted → String
  | .config => "struct Config"
  | .word => "variant identifier"
  | .nothing => "unit"
  | .flag => "a boolean"
  | .count => "usize"

/-- Why a text is no configuration. -/
inductive Cause where
  | json (cause : Json.Cause)
  | unknownWord (word : String) (known : List String)
  /-- The value is of another kind; of arrays and objects only the kind matters. -/
  | wrongKind (found : Json) (wanted : Wanted)
  | negative (n : Int)
  | duplicate (f : Field)
deriving Repr

/-- The kind of a value, and the value where it is short. -/
def kindText : Json → String
  | .null => "null"
  | .bool b => s!"boolean \x60{b}\x60"
  | .integer n => s!"integer \x60{n}\x60"
  | .double x => "floating point \x60" ++ Decimal.json.text x ++ "\x60"
  | .string s => "string " ++ Text.quote s
  | .array _ => "sequence"
  | .object _ => "map"

/-- A word between grave accents. -/
def accented (word : String) : String := "\x60" ++ word ++ "\x60"

def Cause.message : Cause → String
  | .json cause => cause.message
  | .unknownWord word known =>
    "unknown variant " ++ accented word ++ ", expected one of "
      ++ ", ".intercalate (known.map accented)
  | .wrongKind found wanted => "invalid type: " ++ kindText found ++ ", expected " ++ wanted.text
  | .negative n => "invalid value: integer " ++ accented (toString n) ++ ", expected "
      ++ Wanted.count.text
  | .duplicate f => "duplicate field " ++ accented f.name

/-- Scans as a part of a configuration. -/
def within {α : Type} : Scan Json.Cause α → Scan Cause α
  | .ok a => .ok a
  | .error fault => .error ⟨.json fault.cause, fault.rest, fault.ahead⟩

/-! ### Values -/

/-- Reads a value other than an array or an object and picks what is wanted from it. -/
def scanScalar {α : Type} (wanted : Wanted) (pick : Json → Except Cause α) (s : List Char) :
    Scan Cause (α × List Char) :=
  match skipBlanks s with
  | '[' :: s => failAt (.wrongKind (.array []) wanted) ('[' :: s)
  | '{' :: s => failAt (.wrongKind (.object []) wanted) ('{' :: s)
  | s => do
    let (v, rest) ← within (Json.scanValue 1 0 s)
    match pick v with
    | .ok a => .ok (a, rest)
    | .error cause => failAt cause rest

def pickFlag : Json → Except Cause Bool
  | .bool b => .ok b
  | v => .error (.wrongKind v .flag)

def pickCount : Json → Except Cause Nat
  | .integer n => if 0 ≤ n then .ok n.toNat else .error (.negative n)
  | v => .error (.wrongKind v .count)

def pickNothing : Json → Except Cause Unit
  | .null => .ok ()
  | v => .error (.wrongKind v .nothing)

/-- Finds the choice that has the word. -/
def pickWord {α : Type} (choices : List α) (word : α → String) : Json → Except Cause α
  | .string s =>
    match choices.find? fun a => word a = s with
    | some a => .ok a
    | none => .error (.unknownWord s (choices.map word))
  | v => .error (.wrongKind v .word)

/-- Reads the colon after a name. -/
def scanColon (s : List Char) : Scan Cause (List Char) :=
  match skipBlanks s with
  | [] => failAt (.json .endInObject) []
  | ':' :: s => .ok s
  | s => failIn (.json .expectedColon) s

/-- Reads a choice. -/
def scanChoice {α : Type} (choices : List α) (word : α → String) (s : List Char) :
    Scan Cause (α × List Char) :=
  match skipBlanks s with
  | [] => failAt (.json .endInValue) []
  | '"' :: s => scanScalar .word (pickWord choices word) ('"' :: s)
  | '{' :: s => do
    let (choice, s) ← scanScalar .word (pickWord choices word) s
    let (_, s) ← scanScalar .nothing pickNothing (← scanColon s)
    match skipBlanks s with
    | [] => failAt (.json .endInObject) []
    | '}' :: s => .ok (choice, s)
    | s => failAt (.json .expectedValue) s
  | s => failIn (.json .expectedValue) s

/-- Reads the value of a member into a configuration. -/
def scanField (c : Config) (f : Field) (s : List Char) : Scan Cause (Config × List Char) :=
  match f with
  | .reporter => do
    let (kind, s) ← scanChoice ReporterKind.all ReporterKind.word s
    .ok ({ c with reporter := kind }, s)
  | .color => do
    let (color, s) ← scanChoice ColorChoice.all ColorChoice.word s
    .ok ({ c with color := color }, s)
  | .timestamps => do
    let (b, s) ← scanScalar .flag pickFlag s
    .ok ({ c with timestamps := b }, s)
  | .bodyPreview => do
    let (n, s) ← scanScalar .count pickCount s
    .ok ({ c with bodyPreview := n }, s)

/-! ### Objects -/

/-- The fault of giving a member a second time: its place is after the name and blanks, and after a
closing brace that follows them. -/
def duplicateAt {α : Type} (f : Field) (s : List Char) : Scan Cause α :=
  match skipBlanks s with
  | '}' :: s => failAt (.duplicate f) s
  | s => failAt (.duplicate f) s

mutual

/-- Reads the members up to the closing brace; `seen` are those read before. Every step takes a
character, so twice as much fuel as there are characters, and a little more, suffices. -/
def scanMembers : (fuel : Nat) → (first : Bool) → (seen : List Field) → Config → List Char →
    Scan Cause (Config × List Char)
  | 0, _, _, _, _ => failAt (.json .endInObject) []
  | fuel + 1, first, seen, c, s =>
    match skipBlanks s with
    | [] => failAt (.json .endInObject) []
    | '}' :: s => .ok (c, s)
    | a :: s =>
      if first then
        if a = '"' then scanMember fuel seen c s else failIn (.json .keyNotString) (a :: s)
      else if a = ',' then
        match skipBlanks s with
        | [] => failAt (.json .endInValue) []
        | '"' :: s => scanMember fuel seen c s
        | '}' :: s => failIn (.json .trailingComma) ('}' :: s)
        | s => failIn (.json .keyNotString) s
      else failIn (.json .expectedObjectEnd) (a :: s)

/-- Reads a member whose opening quote has been read, and those after it. -/
def scanMember : (fuel : Nat) → (seen : List Field) → Config → List Char →
    Scan Cause (Config × List Char)
  | 0, _, _, _ => failAt (.json .endInObject) []
  | fuel + 1, seen, c, s => do
    let (key, s) ← within (Json.scanString s)
    match Field.ofName? key with
    | none => do
      let s ← within (Json.skipValue (← scanColon s))
      scanMembers fuel false seen c s
    | some f =>
      if seen.contains f then duplicateAt f s
      else do
        let (c, s) ← scanField c f (← scanColon s)
        scanMembers fuel false (f :: seen) c s

end

/-! ### Arrays -/

/-- Reads the end of an array that has all its values. -/
def scanEnd (s : List Char) : Scan Cause (List Char) :=
  match skipBlanks s with
  | [] => failAt (.json .endInList) []
  | ']' :: s => .ok s
  | ',' :: s =>
    match skipBlanks s with
    | ']' :: s => failIn (.json .trailingComma) (']' :: s)
    | s => failIn (.json .trailingCharacters) s
  | s => failIn (.json .trailingCharacters) s

/-- Reads values up to the closing bracket, at most one for each of the fields. -/
def scanItems : (first : Bool) → List Field → Config → List Char → Scan Cause (Config × List Char)
  | _, [], c, s => do .ok (c, ← scanEnd s)
  | first, f :: fields, c, s =>
    match skipBlanks s with
    | [] => failAt (.json .endInList) []
    | ']' :: s => .ok (c, s)
    | a :: s =>
      if first then do
        let (c, s) ← scanField c f (a :: s)
        scanItems false fields c s
      else if a = ',' then
        match skipBlanks s with
        | [] => failAt (.json .endInValue) []
        | ']' :: s => failIn (.json .trailingComma) (']' :: s)
        | s => do
          let (c, s) ← scanField c f s
          scanItems false fields c s
      else failIn (.json .expectedListEnd) (a :: s)

/-! ### Documents -/

/-- Reads a configuration. -/
def scanConfig (s : List Char) : Scan Cause (Config × List Char) :=
  match skipBlanks s with
  | '[' :: s => scanItems true Field.all {} s
  | '{' :: s => scanMembers (2 * s.length + 2) true [] {} s
  | s => scanScalar .config (fun v => .error (.wrongKind v .config)) s

/-- Reads a configuration document. -/
def scanDocument (s : List Char) : Scan Cause Config := do
  let (c, rest) ← scanConfig s
  match skipBlanks rest with
  | [] => .ok c
  | rest => failIn (.json .trailingCharacters) rest

/-- Why and where a text is no configuration document. -/
structure ReadError where
  cause : Cause
  position : Json.Position

def ReadError.message (e : ReadError) : String :=
  s!"{e.cause.message} at line {e.position.line} column {e.position.column}"

/-- Reads a configuration document. -/
def read (text : String) : Except ReadError Config :=
  match scanDocument text.toList with
  | .ok c => .ok c
  | .error fault => .error ⟨fault.cause, Json.Position.of text.toList fault⟩

end Attest.Config
