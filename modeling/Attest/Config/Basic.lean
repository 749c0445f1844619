import Attest.Reporter

/-!
Configurations: where failures are reported and how much of a body messages quote.
-/

namespace Attest

/-- The reporters that a configuration can choose. -/
inductive ReporterKind where
  | panic
  | log
  | console
deriving DecidableEq, Repr

namespace ReporterKind

def all : List ReporterKind := [.panic, .log, .console]

/-- The word for the choice in a configuration. -/
def word : ReporterKind → String
  | .panic => "panic"
  | .log => "log"
  | .console => "console"

def name : ReporterKind → String
  | .panic => "Panic"
  | .log => "Log"
  | .console => "Console"

end ReporterKind

/-- A configuration; what is left out has the values given here. -/
structure Config where
  reporter : ReporterKind := .panic
  color : ColorChoice := .auto
  timestamps : Bool := true
  bodyPreview : Nat := defaultPreview
deriving DecidableEq, Repr

namespace Config

/-- The members of a configuration document. -/
inductive Field where
  | reporter
  | color
  | timestamps
  | bodyPreview
deriving DecidableEq, Repr

namespace Field

def all : List Field := [.reporter, .color, .timestamps, .bodyPreview]

def name : Field → String
  | .reporter => "reporter"
  | .color => "color"
  | .timestamps => "timestamps"
  | .bodyPreview => "bodyPreview"

def ofName? (name : String) : Option Field := all.find? fun f => f.name = name

end Field

/-- The reporter that the configuration chooses. -/
def toReporter (c : Config) : Reporter :=
  match c.reporter with
  | .panic => .panic
  | .log => .log
  | .console => .console ⟨c.timestamps, c.color⟩

/-- The JSON text of a member's value. -/
def fieldText (c : Config) : Field → String
  | .reporter => "\"" ++ c.reporter.word ++ "\""
  | .color => "\"" ++ c.color.word ++ "\""
  | .timestamps => toString c.timestamps
  | .bodyPreview => toString c.bodyPreview

/-- The configuration as a JSON document. -/
def text (c : Config) : String :=
  let member (f : Field) : String := "\"" ++ f.name ++ "\":" ++ c.fieldText f
  "\x7b" ++ ",".intercalate (Field.all.map member) ++ "\x7d"

def description (c : Config) : String :=
  "Config \x7b reporter: " ++ c.reporter.name ++ ", color: " ++ c.color.name ++ ", timestamps: "
    ++ toString c.timestamps ++ ", body_preview: " ++ toString c.bodyPreview ++ " \x7d"

end Config

end Attest
