import Attest.Session.Make

/-!
Calling objects, and running sessions.
-/

namespace Attest

/-- A call on an object. -/
inductive Action where
  /-- Look at the object. -/
  | look
  | ask (q : Question)
  /-- Take the chain of an item. -/
  | takeChain
  | item (k : ItemCall)
  /-- Expect a response to have the status of a code. -/
  | checkStatus (code : Int)
  /-- Expect headers to be those of a list of fields. -/
  | checkFields (fields : List (List UInt8 × List UInt8))
  | messages
  | count
  | last
  | clear
  | report (message : String)
  /-- Compare a failure with another. -/
  | sameFailure (f : Failure)
  /-- Compare a content type with that of a header value. -/
  | sameContentType (value : String)

/-- One step of a session; `as` names the object that it makes. -/
inductive Step where
  | make (m : Make) (as : String)
  | call (on : String) (a : Action) (as : String)

namespace Session

/-- The call on an item that an action comes to. -/
def itemCall : Action → Except Refusal ItemCall
  | .item k => .ok k
  | .checkStatus code =>
    match Status.ofCode? code.toNat with
    | some status => .ok (.response (.status status))
    | none => .error .invalidStatus
  | .checkFields fields =>
    match Headers.ofFields? fields .empty with
    | .ok headers => .ok (.subject (.checkHeaders (.equal headers)))
    | .error e => .error (.invalidHeader e)
  | _ => .error .badStep

def onlyTold (s : Session) (o : Object) (t : Told) : Session × Answer :=
  (s, ⟨.told t, s.chainOf o, []⟩)

def refused (s : Session) (o : Object) (why : Refusal) : Session × Answer :=
  (s, ⟨.refused why, s.chainOf o, []⟩)

/-- Names what the call on an item handed out. -/
def hand (s : Session) (chain : Nat) (as : String) : Reply → Session × Ending
  | .nothing => (s, .nothing)
  | .texts ts => (s, .told (.texts ts))
  | .subject subject =>
    let o := Object.item chain (.subject subject)
    (s.bind as o, .object o)

/-- Keeps what a call on the item of the name `on` left: its chain, of number `id`, the item, and
what it handed out under the name `as`. -/
def conclude (s : Session) (on : String) (id : Nat) (e : Effect (Chain × Item) Reply)
    (as : String) : Session × Answer :=
  let s := ((s.setChain id e.state.1).bind on (.item id e.state.2)).record e.events
  let (s, ending) := match e.outcome with
    | .returned reply => s.hand id as reply
    | .panicked m => (s, .panicked m)
  (s, ⟨ending, some e.state.1, e.events⟩)

/-- Carries out a call on the item `i`, which has the name `on` and the chain `c` of number `id`. -/
def callItem (s : Session) (on : String) (id : Nat) (c : Chain) (i : Item) (k : ItemCall)
    (as : String) : Session × Answer :=
  match i.call c k with
  | none => s.refused (.item id i) .badStep
  | some e => s.conclude on id e as

/-- Reports a message. -/
def reportTo (s : Session) (r : Reporter) (message : String) : Session × Answer :=
  let events := r.events message
  let ending := match r.outcome message with
    | .returned _ => .nothing
    | .panicked m => .panicked m
  (s.record events, ⟨ending, none, events⟩)

/-- An action on an item. -/
def actItem (s : Session) (on : String) (id : Nat) (i : Item) (a : Action) (as : String) :
    Session × Answer :=
  let o := Object.item id i
  match s.chains[id]? with
  | none => s.refused o .badStep
  | some c =>
    match a with
    | .look => (s, ⟨.object o, some c, []⟩)
    | .takeChain =>
      let o := Object.item id .chain
      (s.bind as o, ⟨.object o, some c, []⟩)
    | .ask q =>
      match i.answer c q with
      | some t => s.onlyTold o t
      | none => s.refused o .badStep
    | a =>
      match itemCall a with
      | .ok k => s.callItem on id c i k as
      | .error why => s.refused o why

/-- The description of an object without a chain; only settings have none. -/
def describeTool? (s : Session) : Object → Option String
  | .recorder => some (describeRecording s.recording)
  | .reporter r recorded => some (r.description recorded)
  | .config c => some c.description
  | .contentType ct => some ct.description
  | .failure f => some f.description
  | _ => none

/-- An action on an object without a chain. -/
def actTool (s : Session) (o : Object) (a : Action) : Session × Answer :=
  match o, a with
  | o, .look => (s, ⟨.object o, none, []⟩)
  | o, .ask .description =>
    match s.describeTool? o with
    | some t => s.onlyTold o (.text t)
    | none => s.refused o .badStep
  | .recorder, .messages => s.onlyTold o (.texts s.recording)
  | .recorder, .count => s.onlyTold o (.number s.recording.length)
  | .recorder, .last => s.onlyTold o (.maybeText s.recording.getLast?)
  | .recorder, .clear => ({ s with recording := [] }, ⟨.nothing, none, []⟩)
  | .recorder, .report m => s.reportTo .recording m
  | .reporter r _, .report m => s.reportTo r m
  | .config c, .report m => s.reportTo c.toReporter m
  | .failure f, .sameFailure g => s.onlyTold o (.flag (f = g))
  | .contentType ct, .sameContentType value => s.onlyTold o (.flag (ct = .parse value))
  | o, _ => s.refused o .badStep

/-- Calls the object of that name. -/
def call (s : Session) (on : String) (a : Action) (as : String) : Session × Answer :=
  match s.object? on with
  | none => (s, ⟨.refused .badStep, none, []⟩)
  | some (.item id i) => s.actItem on id i a as
  | some o => s.actTool o a

def step (s : Session) : Step → Session × Answer
  | .make m as => s.makeAs m as
  | .call on a as => s.call on a as

/-- Runs the steps one after the other. -/
def run (s : Session) : List Step → Session × List Answer
  | [] => (s, [])
  | t :: rest =>
    let (s, answer) := s.step t
    let (s, answers) := s.run rest
    (s, answer :: answers)

end Session

end Attest
