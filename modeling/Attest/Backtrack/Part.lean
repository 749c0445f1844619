import Attest.Pattern.Meaning

/-!
Patterns with more than sets, sequences, choices and repetitions.

A `Part` may look ahead and behind, ask for the text of a group again, depend on whether a group has
matched, or forbid to come back to it. Such parts are hard: they are matched by trying. Parts made
without them are easy: `Part.text` writes them as plain patterns.
-/

namespace Attest.Backtrack

/-- A part of a pattern. -/
inductive Part where
  | empty
  | anyChar (newline : Bool)
  | literal (c : Char) (ignoreCase : Bool)
  | textStart
  | textEnd
  | lineStart
  | lineEnd
  /-- What a plain pattern says, and how many characters it takes. -/
  | plain (text : String) (size : Nat) (ignoreCase : Bool)
  | concat (parts : List Part)
  | choice (parts : List Part)
  | group (index : Nat) (part : Part)
  | repeated (loop least : Nat) (greatest : Option Nat) (isGreedy : Bool) (part : Part)
  | look (isBehind isNegated : Bool) (part : Part)
  | atomic (part : Part)
  /-- The text of a group once more. -/
  | recall (group : Nat)
  | isSet (group : Nat)
  | conditional (condition whenTrue whenFalse : Part)
  /-- The place where the match reported is to begin. Whether there is one does not depend on it. -/
  | keepOut
  | searchStart
deriving Repr

namespace Part

mutual

/-- The least number of characters that the part takes. -/
def width : Part → Nat
  | .anyChar _ => 1
  | .literal _ _ => 1
  | .plain _ size _ => size
  | .concat parts => widthOfAll parts
  | .choice parts => leastWidth parts
  | .group _ part => part.width
  | .repeated _ least _ _ part => part.width * least
  | .atomic part => part.width
  | .conditional condition whenTrue whenFalse =>
    condition.width + min whenTrue.width whenFalse.width
  | _ => 0

def widthOfAll : List Part → Nat
  | [] => 0
  | part :: rest => part.width + widthOfAll rest

def leastWidth : List Part → Nat
  | [] => 0
  | [part] => part.width
  | part :: rest => min part.width (leastWidth rest)

end

mutual

/-- Whether the part always takes as many characters. -/
def isFixed : Part → Bool
  | .concat parts => allFixed parts
  | .choice parts => allFixed parts && parts.all fun part => part.width == leastWidth parts
  | .group _ part => part.isFixed
  | .repeated _ least greatest _ part => part.isFixed && greatest == some least
  | .atomic part => part.isFixed
  | .recall _ => false
  | .conditional condition whenTrue whenFalse =>
    condition.isFixed && whenTrue.isFixed && whenFalse.isFixed &&
      condition.width + whenTrue.width == whenFalse.width
  | _ => true

def allFixed : List Part → Bool
  | [] => true
  | part :: rest => part.isFixed && allFixed rest

end

mutual

/-- Whether the part must be matched by trying. That holds too of the groups whose text is asked for
again, `recalled`: any of its matches may be the one that fits. -/
def isHard (recalled : List Nat) : Part → Bool
  | .concat parts => anyHard recalled parts
  | .choice parts => anyHard recalled parts
  | .group index part => recalled.contains index || part.isHard recalled
  | .repeated _ _ _ _ part => part.isHard recalled
  | .look _ _ _ => true
  | .atomic _ => true
  | .recall _ => true
  | .isSet _ => true
  | .conditional _ _ _ => true
  | .keepOut => true
  | .searchStart => true
  | _ => false

def anyHard (recalled : List Nat) : List Part → Bool
  | [] => false
  | part :: rest => part.isHard recalled || anyHard recalled rest

end

/-! ### Plain patterns -/

/-- The characters that a plain pattern must quote. -/
def quotedChars : List Char :=
  ['\\', '.', '+', '*', '?', '(', ')', '|', '[', ']', '\x7b', '\x7d', '^', '$', '#']

def quote (c : Char) : String :=
  if quotedChars.contains c then "\\" ++ c.toString else c.toString

/-- A text in parentheses, if `needed`. -/
def enclose (needed : Bool) (text : String) : String :=
  if needed then "(?:" ++ text ++ ")" else text

def withCase (ignoreCase : Bool) (text : String) : String :=
  if ignoreCase then "(?i:" ++ text ++ ")" else text

/-- The operator of a repetition. -/
def operator (least : Nat) (greatest : Option Nat) : String :=
  match least, greatest with
  | 0, some 1 => "?"
  | 0, none => "*"
  | 1, none => "+"
  | n, none => "\x7b" ++ toString n ++ ",\x7d"
  | n, some m => if n = m then "\x7b" ++ toString n ++ "\x7d"
    else "\x7b" ++ toString n ++ "," ++ toString m ++ "\x7d"

def isEmpty : Part → Bool
  | .empty => true
  | _ => false

mutual

/-- The plain pattern of an easy part, in parentheses where it would else come apart at this level:
1 in a sequence of branches, 2 in a sequence of items, 3 under an operator. -/
def text (level : Nat) : Part → String
  | .anyChar newline => if newline then "(?s:.)" else "."
  | .literal c ignoreCase => withCase ignoreCase (quote c)
  | .textStart => "^"
  | .textEnd => "$"
  | .lineStart => "(?m:^)"
  | .lineEnd => "(?m:$)"
  | .plain text _ ignoreCase => withCase ignoreCase text
  | .concat parts => enclose (1 < level) (textOfAll parts)
  | .choice parts =>
    let branches := "|".intercalate (branchTexts parts)
    let branches := if parts.any isEmpty then "(?:" ++ branches ++ ")?" else branches
    enclose (0 < level) branches
  | .group _ part => "(" ++ part.text 0 ++ ")"
  | .repeated _ least greatest isGreedy part =>
    let mark := if isGreedy then "" else "?"
    enclose (2 < level) (part.text 3 ++ operator least greatest ++ mark)
  | _ => ""

def textOfAll : List Part → String
  | [] => ""
  | part :: rest => part.text 2 ++ textOfAll rest

/-- The texts of the branches that are not empty. -/
def branchTexts : List Part → List String
  | [] => []
  | .empty :: rest => branchTexts rest
  | part :: rest => part.text 1 :: branchTexts rest

end

mutual

/-- The characters of a part that is a text. -/
def chars? : Part → Option (List Char)
  | .literal c false => some [c]
  | .concat parts => charsOfAll? parts
  | _ => none

def charsOfAll? : List Part → Option (List Char)
  | [] => some []
  | part :: rest => do return (← part.chars?) ++ (← charsOfAll? rest)

end

end Part

end Attest.Backtrack
