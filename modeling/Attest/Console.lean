import Attest.Text.Quoted

/-!
Reports on the console.

A report is written as a badge and the first line of the message; further lines follow under it,
indented. Before the badge stands the time, if the console shows it. Colours are escape sequences.
-/

namespace Attest

/-- Whether reports are coloured. -/
inductive ColorChoice where
  | auto
  | always
  | never
deriving DecidableEq, Repr, Inhabited

def ColorChoice.all : List ColorChoice := [.auto, .always, .never]

/-- The word for the choice in a configuration. -/
def ColorChoice.word : ColorChoice → String
  | .auto => "auto"
  | .always => "always"
  | .never => "never"

def ColorChoice.name : ColorChoice → String
  | .auto => "Auto"
  | .always => "Always"
  | .never => "Never"

/-- The lines of a text. A line break ends a line, as does a carriage return with a line break; text
after the last break is a line only if there is some. `line` is the line under way, reversed. -/
def splitLines : (line : List Char) → List Char → List (List Char)
  | [], [] => []
  | line, [] => [line.reverse]
  | line, '\n' :: rest =>
    (match line with
      | '\r' :: before => before.reverse
      | _ => line.reverse) :: splitLines [] rest
  | line, c :: rest => splitLines (c :: line) rest

def lines (s : String) : List String := (splitLines [] s.toList).map String.ofList

/-- What a console finds around it when it writes. -/
structure Surroundings where
  /-- The time, as it is shown. -/
  time : String
  /-- Whether the output goes to a terminal. -/
  isTerminal : Bool := false
  /-- Whether styles are written at all; where they are not, a styled text is the text alone. -/
  writesStyles : Bool := true

/-- How reports look. -/
structure Console where
  timestamps : Bool := true
  color : ColorChoice := .auto
deriving DecidableEq, Repr, Inhabited

namespace Console

/-- The text between the sequences that switch a style on and off. -/
def styled (around : Surroundings) (codes text : String) : String :=
  if around.writesStyles then "\x1b[" ++ codes ++ "m" ++ text ++ "\x1b[0m" else text

def badge (around : Surroundings) (colored : Bool) : String :=
  if colored then styled around "1;41;37" " FAIL " else "[FAIL]"

def stamp (around : Surroundings) (colored : Bool) : String :=
  (if colored then styled around "2" around.time else around.time) ++ " "

def isColored (c : Console) (isTerminal : Bool) : Bool :=
  match c.color with
  | .always => true
  | .never => false
  | .auto => isTerminal

/-- What stands under the badge. -/
def indent : String := "       "

/-- The report of a message. -/
def format (c : Console) (around : Surroundings) (message : String) : String :=
  let colored := c.isColored around.isTerminal
  let time := if c.timestamps then stamp around colored else ""
  let head := time ++ badge around colored ++ " "
  match lines message with
  | [] => head
  | first :: more => head ++ first ++ String.join (more.map fun l => "\n" ++ indent ++ l)

end Console

end Attest
