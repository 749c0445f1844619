import Attest.Backtrack.Part
import Attest.Number.Power
import Attest.Unicode.Alphanumeric

/-!
Reading patterns that may look around.

A text is read once from left to right; what is wrong with one that is no pattern is not told. Flags
hold from where they stand to the end of the pattern, unless the group that sets them has a colon
after them. A brace that begins no count stands for itself.
-/

namespace Attest.Backtrack

open Pattern (Flag)

/-- Where reading stands: what is left, the flags in force, how many groups and repetitions there
are so far, the names of groups, the groups whose texts are asked for again, and whether one of them
was asked for by its number. -/
structure Reading where
  rest : List Char
  flags : List Flag := []
  groups : Nat := 0
  loops : Nat := 0
  names : List (String × Nat) := []
  recalled : List Nat := []
  isNumbered : Bool := false
  /-- The number of bytes of the pattern. -/
  size : Nat

abbrev Read := StateT Reading Option

namespace Read

def peek : Read (Option Char) := do return (← get).rest.head?

def atEnd : Read Bool := do return (← get).rest.isEmpty

def remaining : Read Nat := do return (← get).rest.length

/-- Whether the next character is `c`. -/
def sees (c : Char) : Read Bool := do return (← peek) == some c

/-- Takes the next character; there must be one. -/
def take : Read Char := do
  match (← get).rest with
  | [] => failure
  | c :: rest =>
    modify fun s => { s with rest := rest }
    return c

/-- Takes the text if it comes next. -/
def accept (text : String) : Read Bool := do
  let s ← get
  if text.toList.isPrefixOf s.rest then
    set { s with rest := s.rest.drop text.length }
    return true
  else return false

def has (flag : Flag) : Read Bool := do return (← get).flags.contains flag

def setFlag (flag : Flag) (on : Bool) : Read Unit := modify fun s =>
  let others := s.flags.filter (· ≠ flag)
  { s with flags := if on then flag :: others else others }

/-- Reads, or stays where it is. -/
def attempt? {α : Type} (read : Read α) : Read (Option α) := fun s =>
  match read.run s with
  | some (a, s) => some (some a, s)
  | none => some (none, s)

/-- Takes the characters of a class. -/
def takeWhile (p : Char → Bool) : Read (List Char) := do
  let s ← get
  set { s with rest := s.rest.dropWhile p }
  return s.rest.takeWhile p

end Read

open Read

/-! ### Blanks and numbers -/

/-- What follows a comment, whose end a backslash can hide. -/
def pastComment : List Char → Option (List Char)
  | [] => none
  | ')' :: rest => some rest
  | '\\' :: _ :: rest => pastComment rest
  | _ :: rest => pastComment rest

/-- What follows comments in parentheses and, where they are ignored, blanks and comments up to the
end of their line. -/
def pastBlanks (ignored : Bool) : (fuel : Nat) → List Char → Option (List Char)
  | 0, cs => some cs
  | fuel + 1, cs =>
    match cs with
    | '(' :: '?' :: '#' :: rest => (pastComment rest).bind (pastBlanks ignored fuel)
    | '#' :: rest =>
      if ignored then pastBlanks ignored fuel ((rest.dropWhile (· ≠ '\n')).drop 1) else some cs
    | c :: rest =>
      if ignored && (c == ' ' || c == '\t' || c == '\n' || c == '\r') then
        pastBlanks ignored fuel rest
      else some cs
    | [] => some []

def skipBlanks : Read Unit := do
  let s ← get
  let rest ← pastBlanks (s.flags.contains .ignoreBlanks) (s.rest.length + 1) s.rest
  set { s with rest := rest }

/-- Numbers that are not below this are none. -/
def numberLimit : Nat := pow2 64

/-- Reads a number. -/
def number : Read Nat := do
  let digits ← takeWhile Char.isDigit
  if digits.isEmpty then failure
  else
    let n := digits.foldl (fun n c => n * 10 + (c.toNat - 48)) 0
    if n < numberLimit then return n else failure

/-- Reads the counts between braces; the opening brace comes next. The largest number means that
there is no greatest count. -/
def counts : Read (Nat × Option Nat) := do
  let _ ← take
  skipBlanks
  let least ← if ← sees ',' then pure 0 else number
  skipBlanks
  let greatest ← do
    if ← sees '}' then pure (some least)
    else if ← accept "," then
      skipBlanks
      attempt? number
    else failure
  skipBlanks
  if ← accept "\x7d" then
    return (least, greatest.filter (· + 1 < numberLimit))
  else failure

/-! ### Escapes -/

def isNameChar (c : Char) : Bool := c = '_' || Unicode.isAlphanumeric c

/-- Reads a name and what closes it. -/
def name (close : String) : Read String := do
  let name ← takeWhile isNameChar
  if name.isEmpty then failure
  else if ← accept close then return String.ofList name
  else failure

/-- Notes that the text of a group is asked for again. The group must have been opened before. -/
def recalled (group : Nat) : Read Nat := do
  let s ← get
  if s.groups < group then failure
  else
    set { s with recalled := group :: s.recalled }
    return group

/-- Reads the number of a group. -/
def numberedGroup : Read Nat := do
  let n ← number
  let s ← get
  if n < s.size / 2 then
    set { s with isNumbered := true }
    recalled n
  else failure

/-- Reads the name of a group, or its number in place of a name. -/
def namedGroup (close : String) : Read Nat := do
  let name ← name close
  match (← get).names.lookup name with
  | some group => recalled group
  | none =>
    let digits := name.toList
    if digits.all Char.isDigit then
      let n := digits.foldl (fun n c => n * 10 + (c.toNat - 48)) 0
      if n < numberLimit then recalled n else failure
    else failure

def literal (c : Char) : Read Part := do return .literal c (← has .ignoreCase)

def plain (text : String) (size : Nat) : Read Part := do
  return .plain text size (← has .ignoreCase)

def isHexDigit (c : Char) : Bool := (Text.hexDigit? c).isSome

/-- The character of a code point given by its digits. -/
def hexChar (digits : List Char) : Read Char := do
  let n := digits.foldl (fun n c => n * 16 + (Text.hexDigit? c).getD 0) 0
  if n.isValidChar then return Char.ofNat n else failure

/-- Reads so many hexadecimal digits, or up to eight between braces. -/
def hexLiteral (count : Nat) : Read Part := do
  let s ← get
  let digits := s.rest.take count
  if digits.length = count ∧ digits.all isHexDigit then
    set { s with rest := s.rest.drop count }
    literal (← hexChar digits)
  else if ← accept "\x7b" then
    let digits ← takeWhile isHexDigit
    if digits.isEmpty ∨ 8 < digits.length then failure
    else if ← accept "\x7d" then literal (← hexChar digits)
    else failure
  else failure

/-- Reads the name of a property after its letter: one character, or what stands in braces. -/
def propertyName : Read (List Char) := do
  let first ← take
  if first = '{' then
    let name ← takeWhile (· ≠ '}')
    return first :: name ++ [← take]
  else return [first]

/-- Reads an escape; the backslash has been taken. Escapes of plain patterns are kept as they are.
-/
def escape : Read Part := do
  let c ← (← peek).getDM failure
  if c.isDigit then return .recall (← numberedGroup)
  let _ ← take
  let kept := "\\" ++ c.toString
  if c = 'k' then
    if ← accept "'" then return .recall (← namedGroup "'")
    else if ← accept "<" then return .recall (← namedGroup ">")
    else failure
  else if c = 'A' ∨ c = 'z' ∨ c = 'b' ∨ c = 'B' then plain kept 0
  else if ['d', 'D', 's', 'S', 'w', 'W', 'a', 'f', 'n', 'r', 't', 'v'].contains c then plain kept 1
  else if c = 'e' then plain "\\x1B" 1
  else if c = 'h' then plain "[0-9A-Fa-f]" 1
  else if c = 'H' then plain "[^0-9A-Fa-f]" 1
  else if c = 'x' then hexLiteral 2
  else if c = 'u' then hexLiteral 4
  else if c = 'U' then hexLiteral 8
  else if c = 'p' ∨ c = 'P' then plain (kept ++ String.ofList (← propertyName)) 1
  else if c = 'K' then return .keepOut
  else if c = 'G' then return .searchStart
  else if c.isAlpha then failure
  else if ' ' ≤ c ∧ c ≤ '\x7f' then literal c
  else plain kept 1

/-! ### Classes -/

/-- What an escape stands for in a class. -/
def Part.inClass : Part → Read String
  | .literal c _ => return if Pattern.metaChars.contains c then "\\" ++ c.toString else c.toString
  | .plain text _ _ => return text
  | _ => failure

/-- Reads a class up to the bracket that closes it; `nest` brackets are open, and `before` is what
has been read, last character first. -/
def classText : (fuel nest : Nat) → (before : List Char) → Read String
  | 0, _, _ => failure
  | fuel + 1, nest, before => do
    let c ← take
    match c with
    | '\\' => classText fuel nest ((← (← escape).inClass).toList.reverse ++ before)
    | '[' => classText fuel (nest + 1) (c :: before)
    | ']' =>
      if nest ≤ 1 then return String.ofList (c :: before).reverse
      else classText fuel (nest - 1) (c :: before)
    | _ => classText fuel nest (c :: before)

/-- Reads a class; its bracket has been taken. A bracket that closes stands for itself right at the
beginning. -/
def classPart : Read Part := do
  let caret := if ← accept "^" then ['^'] else []
  let bracket := if ← accept "]" then [']'] else []
  plain (← classText ((← remaining) + 1) 1 (bracket ++ caret ++ ['['])) 1

/-! ### Groups -/

/-- How deep groups may be nested. -/
def nestLimit : Nat := 64

/-- Reads flags up to a colon or a closing parenthesis, and says whether it was a colon. `start` is
how much was left before the first. -/
def flagSettings (start : Nat) : (fuel : Nat) → (isOff : Bool) → Read Bool
  | 0, _ => failure
  | fuel + 1, isOff => do
    skipBlanks
    let taken := start - (← remaining)
    match ← take with
    | ':' => if isOff ∧ taken = 1 then failure else return true
    | ')' => if taken = 0 ∨ (isOff ∧ taken = 1) then failure else return false
    | '-' => if isOff then failure else flagSettings start fuel true
    | 'u' => if isOff then failure else flagSettings start fuel isOff
    | 'R' => failure
    | c =>
      setFlag (← Flag.ofLetter? c) (!isOff)
      flagSettings start fuel isOff

/-- Takes a closing parenthesis. -/
def close : Read Unit := do
  skipBlanks
  unless ← accept ")" do failure

/-- Opens a group and gives its number. -/
def openGroup (name : Option String) : Read Nat := do
  let s ← get
  let index := s.groups + 1
  let names := match name with
    | some name => (name, index) :: s.names
    | none => s.names
  set { s with groups := index, names := names }
  return index

/-- Opens a group that has a name, after the angle before it. -/
def openNamed : Read Nat := do
  let index ← openGroup none
  let name ← name ">"
  modify fun s => { s with names := (name, index) :: s.names }
  return index

def concatPart : List Part → Part
  | [] => .empty
  | [part] => part
  | parts => .concat parts

/-- A part that depends on a condition. Where the condition is a group, it is whether it has
matched; without a branch it is the condition alone that counts. -/
def conditionalPart (condition branches : Part) : Part :=
  let condition := match condition with
    | .recall group => .isSet group
    | condition => condition
  let (whenTrue, whenFalse) := match branches with
    | .choice [whenTrue, whenFalse] => (whenTrue, whenFalse)
    | .choice (whenTrue :: rest) => (whenTrue, .choice rest)
    | branch => (branch, .empty)
  if whenTrue.isEmpty && whenFalse.isEmpty then condition
  else .conditional condition whenTrue whenFalse

/-- Whether an operator may repeat the part. -/
def Part.isRepeatable : Part → Bool
  | .empty => false
  | .textStart => false
  | .textEnd => false
  | .lineStart => false
  | .lineEnd => false
  | .look _ _ _ => false
  | _ => true

/-- Reads the operator of a repetition, if one comes next. -/
def operator? : Read (Option (Nat × Option Nat)) := do
  match ← peek with
  | some '?' => let _ ← take; return some (0, some 1)
  | some '*' => let _ ← take; return some (0, none)
  | some '+' => let _ ← take; return some (1, none)
  | some '{' => attempt? counts
  | _ => return none

mutual

/-- Reads branches. Groups with names cannot be asked for by number, which is checked where there is
one branch only. -/
def branches : (fuel depth : Nat) → Read Part
  | 0, _ => failure
  | fuel + 1, depth => do
    let first ← branch fuel depth []
    skipBlanks
    if ← sees '|' then return .choice (first :: (← moreBranches fuel depth))
    else
      let s ← get
      if s.isNumbered && !s.names.isEmpty then failure else return first
termination_by structural fuel => fuel

/-- Reads the branches after the first, each with the bar before it. -/
def moreBranches : (fuel depth : Nat) → Read (List Part)
  | 0, _ => failure
  | fuel + 1, depth => do
    if ← accept "|" then
      let next ← branch fuel depth []
      skipBlanks
      return next :: (← moreBranches fuel depth)
    else return []
termination_by structural fuel => fuel

/-- Reads pieces up to the end of a branch; those read are given last first. -/
def branch : (fuel depth : Nat) → List Part → Read Part
  | 0, _, _ => failure
  | fuel + 1, depth, parts => do
    let before ← remaining
    if before = 0 then return concatPart parts.reverse
    else
      let next ← piece fuel depth
      if (← remaining) = before then return concatPart parts.reverse
      else branch fuel depth (if next.isEmpty then parts else next :: parts)
termination_by structural fuel => fuel

/-- Reads an atom and the operator after it. A plus after an operator makes the repetition one that
is not come back to. -/
def piece : (fuel depth : Nat) → Read Part
  | 0, _ => failure
  | fuel + 1, depth => do
    let part ← atom fuel depth
    skipBlanks
    match ← operator? with
    | none => return part
    | some (least, greatest) =>
      unless part.isRepeatable do failure
      skipBlanks
      let isLazy ← accept "?"
      let isGreedy := isLazy == (← has .swapGreed)
      let loop := (← get).loops
      modify fun s => { s with loops := loop + 1 }
      let whole := Part.repeated loop least greatest isGreedy part
      if ← accept "+" then return .atomic whole else return whole
termination_by structural fuel => fuel

/-- Reads an atom. Where an operator or the end of a branch comes next, it is empty. -/
def atom : (fuel depth : Nat) → Read Part
  | 0, _ => failure
  | fuel + 1, depth => do
    skipBlanks
    match ← peek with
    | none => return .empty
    | some '.' => let _ ← take; return .anyChar (← has .dotMatchesNewline)
    | some '^' => let _ ← take; return if ← has .multiLine then .lineStart else .textStart
    | some '$' => let _ ← take; return if ← has .multiLine then .lineEnd else .textEnd
    | some '(' => let _ ← take; group fuel depth
    | some '\\' => let _ ← take; escape
    | some '[' => let _ ← take; classPart
    | some c =>
      if ['+', '*', '?', '|', ')'].contains c then return .empty
      else
        let _ ← take
        literal c
termination_by structural fuel => fuel

/-- Reads a group after its opening parenthesis. -/
def group : (fuel depth : Nat) → Read Part
  | 0, _ => failure
  | fuel + 1, depth => do
    if nestLimit ≤ depth + 1 then failure
    skipBlanks
    if ← accept "?=" then return .look false false (← grouped fuel (depth + 1))
    else if ← accept "?!" then return .look false true (← grouped fuel (depth + 1))
    else if ← accept "?<=" then return .look true false (← grouped fuel (depth + 1))
    else if ← accept "?<!" then return .look true true (← grouped fuel (depth + 1))
    else if (← accept "?<") || (← accept "?P<") then
      let index ← openNamed
      return .group index (← grouped fuel (depth + 1))
    else if ← accept "?P=" then return .recall (← namedGroup ")")
    else if ← accept "?>" then return .atomic (← grouped fuel (depth + 1))
    else if ← accept "?(" then conditional fuel (depth + 1)
    else if ← accept "?" then
      let outer := (← get).flags
      let start ← remaining
      if ← flagSettings start (start + 1) false then
        let part ← branches fuel (depth + 1)
        unless ← accept ")" do failure
        modify fun s => { s with flags := outer }
        return part
      else return .empty
    else
      let index ← openGroup none
      return .group index (← grouped fuel (depth + 1))
termination_by structural fuel => fuel

/-- Reads branches and the parenthesis after them. -/
def grouped : (fuel depth : Nat) → Read Part
  | 0, _ => failure
  | fuel + 1, depth => do
    let part ← branches fuel depth
    close
    return part
termination_by structural fuel => fuel

/-- Reads a condition, and the branches for when it holds and when not. The branches may be missing
only where the condition is a group. -/
def conditional : (fuel depth : Nat) → Read Part
  | 0, _ => failure
  | fuel + 1, depth => do
    let condition ← do
      match ← peek with
      | none => failure
      | some c =>
        if c.isDigit then pure (.recall (← numberedGroup))
        else if ← accept "'" then pure (.recall (← namedGroup "'"))
        else if ← accept "<" then pure (.recall (← namedGroup ">"))
        else branches fuel depth
    close
    let before ← remaining
    let part ← branches fuel depth
    if (← remaining) = before then
      match condition with
      | .recall _ => pure ()
      | _ => failure
    close
    return conditionalPart condition part
termination_by structural fuel => fuel

end

/-- Reads a whole pattern: its parts, and the groups whose texts are asked for again. -/
def Part.read? (text : String) : Option (Part × List Nat) := do
  let cs := text.toList
  let whole : Read Part := branches (8 * (cs.length + 4)) 0
  let (part, s) ← whole.run { rest := cs, size := text.utf8ByteSize }
  if s.rest.isEmpty then return (part, s.recalled) else none

end Attest.Backtrack
