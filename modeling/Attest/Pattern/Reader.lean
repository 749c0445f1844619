import Attest.Pattern.Bracket
import Attest.Unicode.Alphanumeric

/-!
Reading patterns.

A pattern is read once from left to right, and the first fault met is the one reported, but for the
limit of nesting, which is checked on the finished tree.
-/

namespace Attest.Pattern

open Read

/-! ### Groups -/

/-- Reads flags up to a colon or a closing parenthesis, which stays. `seen` holds those read, each
with its span, and `minus` the span of the hyphen, if there was one. -/
def flagSettings : (fuel : Nat) → (seen : List (FlagSetting × Span)) → (minus : Option Span) →
    (dangling : Bool) → Read (List FlagSetting)
  | 0, _, _, _ => failHere .flagAtEnd
  | fuel + 1, seen, minus, dangling => do
    match ← peek with
    | none => failHere .flagAtEnd
    | some c =>
      if c = ':' ∨ c = ')' then
        match minus, dangling with
        | some span, true => fail .flagDanglingNegation span
        | _, _ => return (seen.map (·.1)).reverse
      else
        let span ← charSpan
        if c = '-' then
          if let some earlier := minus then throw ⟨.flagRepeatedNegation, span, some earlier⟩
          bump
          if ← atEnd then failHere .flagAtEnd
          flagSettings fuel seen (some span) true
        else
          match Flag.ofLetter? c with
          | none => fail .flagUnrecognized span
          | some flag =>
            if let some (_, earlier) := seen.find? fun (s, _) => s.flag = flag then
              throw ⟨.flagDuplicate, span, some earlier⟩
            bump
            if ← atEnd then failHere .flagAtEnd
            flagSettings fuel ((⟨flag, minus.isNone⟩, span) :: seen) minus false

def isNameStart (c : Char) : Bool := c = '_' || Unicode.isLetter c

def isNamePart (c : Char) : Bool :=
  c = '_' || c = '.' || c = '[' || c = ']' || Unicode.isAlphanumeric c

/-- Takes the characters of a group's name up to the closing angle. -/
def nameChars (first : Bool) : (fuel : Nat) → Read (List Char)
  | 0 => failHere .groupNameAtEnd
  | fuel + 1 => do
    match ← peek with
    | none => failHere .groupNameAtEnd
    | some '>' => return []
    | some c =>
      if (if first then isNameStart c else isNamePart c) then
        bump
        return c :: (← nameChars false fuel)
      else failChar .groupNameInvalid

/-- Reads the name of a group after its opening angle. -/
def groupName : Read Unit := do
  let start ← place
  let name := String.ofList (← nameChars true (← fuel))
  let span : Span := ⟨start, ← place⟩
  bump
  if name.isEmpty then fail .groupNameEmpty ⟨start, start⟩
  if let some (_, earlier) := (← get).names.find? fun n => n.1 = name then
    throw ⟨.groupNameDuplicate, span, some earlier⟩
  modify fun s => { s with names := (name, span) :: s.names }

/-- What an opening parenthesis begins. -/
inductive Opening where
  | flags (settings : List FlagSetting)
  | group (captures : Bool) (settings : List FlagSetting)

/-- Reads the opening of a group; the parenthesis comes next, and `opened` is its span. -/
def groupOpening (opened : Span) : Read Opening := do
  bump
  skipBlanks
  for mark in [['?', '='], ['?', '!'], ['?', '<', '='], ['?', '<', '!']] do
    if ← accept mark then failSince .lookAround opened.start
  let inner ← place
  if (← accept ['?', 'P', '<']) || (← accept ['?', '<']) then
    groupName
    return .group true []
  else if ← accept ['?'] then
    if ← atEnd then fail .groupUnclosed opened
    let settings ← flagSettings (← fuel) [] none false
    let closed ← sees ')'
    bump
    if closed then
      if settings.isEmpty then fail .repetitionMissing ⟨inner, inner⟩
      return .flags settings
    else return .group false settings
  else return .group true []

/-! ### Repetitions -/

/-- Reads a decimal number, with the blanks around it. An empty one is given as none, with its
place. -/
def decimal : Read (Option Nat × Place) := do
  let blanks := (← get).rest.takeWhile Unicode.isWhiteSpace
  blanks.forM fun _ => bump
  let start ← place
  let digits ← takeWhile Char.isDigit (← fuel)
  let stop ← place
  let _ ← takeWhile Unicode.isWhiteSpace (← fuel)
  if digits.isEmpty then return (none, start)
  else
    let n := digits.foldl (fun n c => n * 10 + (c.toNat - 48)) 0
    if n < 0x100000000 then return (some n, start)
    else fail .decimalInvalid ⟨start, stop⟩

/-- The number, which must not be empty. -/
def present : Option Nat × Place → Read Nat
  | (some n, _) => return n
  | (none, p) => fail .countNotDecimal ⟨p, p⟩

/-- A decimal read before it is known whether the text goes on: a fault in it counts only if so. -/
def decimalLater : Read (Except Fault (Option Nat × Place)) := do
  let before ← get
  match decimal.run before with
  | .ok (n, after) =>
    set after
    return .ok n
  | .error fault =>
    let blanks := before.rest.takeWhile Unicode.isWhiteSpace
    blanks.forM fun _ => bump
    let _ ← takeWhile Char.isDigit (← fuel)
    let _ ← takeWhile Unicode.isWhiteSpace (← fuel)
    return .error fault

/-- Reads the counts between braces, both brackets included. -/
def counts : Read (Nat × Option Nat) := do
  let start ← place
  unless ← advance do failSince .countUnclosed start
  let least ← decimalLater
  if ← atEnd then failSince .countUnclosed start
  let range ← do
    if !(← sees ',') then
      let n ← present (← least)
      pure (n, some n)
    else
      unless ← advance do failSince .countUnclosed start
      if ← sees '}' then pure (← present (← least), none)
      else
        let least ← present (← least)
        pure (least, some (← present (← decimal)))
  unless ← sees '}' do failSince .countUnclosed start
  return range

/-- Takes the item that an operator repeats off the items read, which are given last first. -/
def repeated : List Node → Read (Node × List Node)
  | [] => failHere .repetitionMissing
  | .flags _ _ :: _ => failHere .repetitionMissing
  | .empty _ :: _ => failHere .repetitionMissing
  | node :: before => return (node, before)

/-- Takes the question mark that makes a repetition lazy, after the end of its operator, and says
whether there is one. -/
def lazyMark : Read Bool := accept ['?']

/-! ### Sequences -/

def concatNode (items : List Node) (span : Span) : Node :=
  match items with
  | [] => .empty span
  | [item] => item
  | items => .concat items.reverse span

def alternationNode (branches : List Node) (span : Span) : Node :=
  match branches with
  | [branch] => branch
  | branches => .alternation branches.reverse span

/-- Reads items and branches up to the end or a closing parenthesis, which stays. Items and branches
read are given last first; `begin` and `since` are where the branches and the current one start. -/
def sequence : (fuel : Nat) → (begin since : Place) → (branches items : List Node) → Read Node
  | 0, begin, _, _, _ => failSince .groupUnclosed begin
  | fuel + 1, begin, since, branches, items => do
    skipBlanks
    match ← peek with
    | none =>
      let stop ← place
      return alternationNode (concatNode items ⟨since, stop⟩ :: branches) ⟨begin, stop⟩
    | some ')' =>
      let stop ← place
      return alternationNode (concatNode items ⟨since, stop⟩ :: branches) ⟨begin, stop⟩
    | some '|' =>
      let branch := concatNode items ⟨since, ← place⟩
      bump
      sequence fuel begin (← place) (branch :: branches) []
    | some '(' =>
      let opened ← charSpan
      let outer := (← get).skipping
      match ← groupOpening opened with
      | .flags settings =>
        applySkipping settings
        sequence fuel begin since branches (.flags settings ⟨opened.start, ← place⟩ :: items)
      | .group captures settings =>
        applySkipping settings
        let here ← place
        let node ← sequence fuel here here [] []
        unless ← sees ')' do fail .groupUnclosed opened
        modify fun s => { s with skipping := outer }
        bump
        let group := Node.group captures settings node ⟨opened.start, ← place⟩
        sequence fuel begin since branches (group :: items)
    | some '[' =>
      let node ← bracketedClass
      sequence fuel begin since branches (node :: items)
    | some '{' =>
      let (node, before) ← repeated items
      let start ← place
      let (least, greatest) ← counts
      let _ ← advance
      let isLazy ← lazyMark
      if greatest.any (· < least) then failSince .countInvalid start
      let item := Node.repetition least greatest isLazy node ⟨node.span.start, ← place⟩
      sequence fuel begin since branches (item :: before)
    | some '\\' =>
      let item := (← escape).toNode
      sequence fuel begin since branches (item :: items)
    | some c =>
      let span ← charSpan
      if c = '?' ∨ c = '*' ∨ c = '+' then
        let (node, before) ← repeated items
        bump
        let isLazy ← lazyMark
        let greatest := if c = '?' then some 1 else none
        let least := if c = '+' then 1 else 0
        let item := Node.repetition least greatest isLazy node ⟨node.span.start, ← place⟩
        sequence fuel begin since branches (item :: before)
      else
        bump
        let item : Node :=
          if c = '.' then .dot span
          else if c = '^' then .anchor .lineStart span
          else if c = '$' then .anchor .lineEnd span
          else .literal ⟨c, false, span⟩
        sequence fuel begin since branches (item :: items)
where
  /-- Switches the skipping of blanks, if the settings say so. -/
  applySkipping (settings : List FlagSetting) : Read Unit :=
    match settings.find? fun s => s.flag = .ignoreBlanks with
    | some s => modify fun r => { r with skipping := s.on }
    | none => return ()

/-- Reads a whole pattern. -/
def pattern : Read Node := do
  let start ← place
  let node ← sequence (2 * (← fuel)) start start [] []
  if ← sees ')' then failChar .groupUnopened
  match node.tooDeep? nestLimit with
  | some span => fail .nestedTooDeep span
  | none => return node

/-- The parts of a pattern. -/
def Node.read (text : String) : Except Fault Node :=
  (pattern.run { rest := text.toList }).map (·.1)

end Attest.Pattern
