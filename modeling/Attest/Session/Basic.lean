import Attest.Session.Item

/-!
Sessions: chains and named objects over a tree of files and one recording.

Objects that share a chain refer to it by its number, so a failure of one is a failure of all of
them. A step either makes an object or calls one; `Session.step` gives the session after it and an
answer.
-/

namespace Attest

/-- An object of a session. -/
inductive Object where
  | item (chain : Nat) (i : Item)
  /-- The recording. -/
  | recorder
  /-- A reporter, with the messages that the recording held when it was made. -/
  | reporter (r : Reporter) (recorded : List String)
  | config (c : Config)
  | settings (e : Settings)
  | contentType (ct : ContentType)
  | failure (f : Failure)

structure Session where
  files : Files
  /-- All chains; an object refers to one by its place in the list. -/
  chains : List Chain
  /-- The objects by name, the last made first. -/
  objects : List (String × Object)
  /-- The messages of the recording, the oldest first. -/
  recording : List String

/-- Why a step was not carried out. -/
inductive Refusal where
  /-- There is no such object, or it has no such call. -/
  | badStep
  | invalidStatus
  | invalidHeader (e : HeaderError)
  | notLoaded (e : Config.LoadError)

def Refusal.message : Refusal → String
  | .badStep => "no such object or call"
  | .invalidStatus => "invalid status code"
  | .invalidHeader e => e.message
  | .notLoaded e => e.message

/-- How a step ended. -/
inductive Ending where
  | nothing
  /-- The object was made, or looked at. -/
  | object (o : Object)
  | told (t : Told)
  | panicked (message : String)
  | refused (why : Refusal)

/-- What came of a step. -/
structure Answer where
  ending : Ending
  /-- The chain afterwards of the object that the step was about, if it has one. -/
  chain : Option Chain
  events : List Event

namespace Session

/-- The name of the recording in a new session. -/
def recorderName : String := "rec"

/-- The name of the chain in a new session. -/
def chainName : String := "c"

/-- A session with the recording and a chain that reports to it. -/
def start (files : Files) : Session where
  files := files
  chains := [{ reporter := .recording }]
  objects := [(chainName, .item 0 .chain), (recorderName, .recorder)]
  recording := []

def object? (s : Session) (name : String) : Option Object := s.objects.lookup name

/-- Gives an object a name, which another may have had. -/
def bind (s : Session) (name : String) (o : Object) : Session :=
  { s with objects := (name, o) :: s.objects.filter fun e => e.1 ≠ name }

/-- The chain that an object holds. -/
def chainOf (s : Session) : Object → Option Chain
  | .item id _ => s.chains[id]?
  | _ => none

/-- The number of the chain that the object of that name holds. -/
def chainNamed? (s : Session) (name : String) : Option Nat :=
  match s.object? name with
  | some (.item id _) => some id
  | _ => none

/-- Adds a chain; its number is the number of chains before. -/
def addChain (s : Session) (c : Chain) : Session := { s with chains := s.chains ++ [c] }

def setChain (s : Session) (id : Nat) (c : Chain) : Session :=
  { s with chains := s.chains.set id c }

/-- Keeps what events add to the recording. -/
def record (s : Session) (events : List Event) : Session :=
  { s with recording := s.recording ++ events.filterMap Event.recorded? }

end Session

end Attest
