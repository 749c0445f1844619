import Attest.Console
import Attest.Failure

/-!
Reporters: where the text of a failure goes.

A reporter keeps the message in a recording, stops the test by a panic, writes a log record or
prints on a console; users bring reporters of their own. What reporters and assertions do to the
world outside is a list of events, in order.
-/

namespace Attest

/-- How grave a log record is. -/
inductive Level where
  | debug
  | info
  | warn
  | error
deriving DecidableEq, Repr

def Level.name : Level → String
  | .debug => "DEBUG"
  | .info => "INFO"
  | .warn => "WARN"
  | .error => "ERROR"

/-- Something that reaches the world outside. -/
inductive Event where
  /-- A message is added to the recording. -/
  | recorded (message : String)
  /-- A record goes to the log. -/
  | logged (level : Level) (text : String)
  /-- A console prints a message. -/
  | printed (console : Console) (message : String)
  /-- A reporter of the user's own gets a message. -/
  | delivered (reporter message : String)
deriving DecidableEq, Repr

namespace Event

def recorded? : Event → Option String
  | .recorded m => some m
  | _ => none

def logged? : Event → Option (Level × String)
  | .logged level text => some (level, text)
  | _ => none

def printed? (around : Surroundings) : Event → Option String
  | .printed c m => some (c.format around m ++ "\n")
  | _ => none

end Event

/-- Where failures are reported. -/
inductive Reporter where
  | recording
  | panic
  | log
  | console (c : Console)
  /-- A reporter of the user's own, known by its name: it takes the message and returns. -/
  | custom (name : String)
deriving DecidableEq, Repr, Inhabited

/-- How a call ends: it gives a result, or a panic stops it. -/
inductive Outcome (α : Type) where
  | returned (result : α)
  | panicked (message : String)
deriving Repr

namespace Outcome

def map {α β : Type} (f : α → β) : Outcome α → Outcome β
  | .returned a => .returned (f a)
  | .panicked m => .panicked m

end Outcome

namespace Reporter

/-- The events of a report. -/
def events : Reporter → (message : String) → List Event
  | .recording, m => [.recorded m]
  | .panic, _ => []
  | .log, m => [.logged .error m]
  | .console c, m => [.printed c m]
  | .custom name, m => [.delivered name m]

/-- How a report ends. -/
def outcome : Reporter → (message : String) → Outcome Unit
  | .panic, m => .panicked m
  | _, _ => .returned ()

end Reporter

end Attest
