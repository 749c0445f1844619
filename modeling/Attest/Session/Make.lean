import Attest.Session.Basic

/-!
Making objects.
-/

namespace Attest

/-- Where the chain of a new response comes from. -/
inductive Origin where
  /-- A fresh chain under the settings of that name. -/
  | settings (name : String)
  /-- The chain of the object of that name. -/
  | chain (name : String)
  /-- A fresh chain. -/
  | reporter (r : Reporter)

/-- Where settings come from. -/
inductive SettingsOrigin where
  | reporter (r : Reporter)
  /-- The configuration of that name. -/
  | config (name : String)
  /-- The configuration file of a directory. -/
  | directory (dir : String)
  | defaults

/-- What an object is made from. -/
inductive Make where
  | chain (r : Reporter) (failed : Bool)
  | response (origin : Origin) (status : Int) (fields : List (List UInt8 × List UInt8))
      (body : Option (List Chunk)) (preview : Option Nat)
  | headers (chain : String) (fields : List (List UInt8 × List UInt8))
  | subject (chain : String) (s : Subject)
  | reporter (r : Reporter)
  | defaultConfig
  | config (dir : String) (path : Option String)
  | settings (origin : SettingsOrigin)
  | contentType (value : String)
  | failure (f : Failure)

namespace Session

/-- An object that has been made, with what happened on the way; or the reason that it has not. -/
abbrev Made := List Event × Except Refusal (Session × Object)

def refuse (why : Refusal) : Made := ([], .error why)

def made (s : Session) (o : Object) : Made := ([], .ok (s, o))

/-- The object that holds a new chain. -/
def withFreshChain (s : Session) (c : Chain) (i : Item) : Made :=
  made (s.addChain c) (.item s.chains.length i)

/-- The object that holds the chain of another. -/
def withChainOf (s : Session) (name : String) (i : Item) : Made :=
  match s.chainNamed? name with
  | some id => made s (.item id i)
  | none => refuse .badStep

/-- The response that was received. -/
def received (status : Int) (fields : List (List UInt8 × List UInt8))
    (body : Option (List Chunk)) : Except Refusal Response :=
  match Status.ofCode? status.toNat with
  | none => .error .invalidStatus
  | some status =>
    match Headers.ofFields? fields .empty with
    | .error e => .error (.invalidHeader e)
    | .ok headers => .ok { status := status, headers := headers, body := .unread body }

/-- The response as an object. -/
def makeResponse (s : Session) (origin : Origin) (r : Response) (preview : Option Nat) : Made :=
  let limited (r : Response) : Item :=
    .response { r with previewLimit := preview.getD r.previewLimit }
  match origin with
  | .reporter reporter => s.withFreshChain { reporter := reporter } (limited r)
  | .chain name => s.withChainOf name (limited r)
  | .settings name =>
    match s.object? name with
    | some (.settings e) => s.withFreshChain e.chain (limited (e.adopt r))
    | _ => refuse .badStep

def loadedAs {α : Type} (s : Session) (object : α → Object)
    (loaded : List Event × Except Config.LoadError α) : Made :=
  (loaded.1, match loaded.2 with
    | .ok a => .ok (s, object a)
    | .error e => .error (.notLoaded e))

/-- The directory of that name, seen from the working directory. -/
def directory (s : Session) (dir : String) : Path := s.files.workingDirectory.join (.ofString dir)

def makeSettings (s : Session) : SettingsOrigin → Made
  | .reporter r => made s (.settings { reporter := r })
  | .defaults => made s (.settings (.ofConfig {}))
  | .directory dir => s.loadedAs .settings (Settings.ofDirectory s.files (s.directory dir))
  | .config name =>
    match s.object? name with
    | some (.config c) => made s (.settings (.ofConfig c))
    | _ => refuse .badStep

/-- Makes an object. -/
def make (s : Session) : Make → Made
  | .chain r failed => s.withFreshChain (if failed then .failedFrom r else { reporter := r }) .chain
  | .response origin status fields body preview =>
    match received status fields body with
    | .error why => refuse why
    | .ok r => s.makeResponse origin r preview
  | .headers chain fields =>
    match Headers.ofFields? fields .empty with
    | .error e => refuse (.invalidHeader e)
    | .ok headers => s.withChainOf chain (.subject (.headers headers))
  | .subject chain subject => s.withChainOf chain (.subject subject)
  | .reporter r => made s (.reporter r s.recording)
  | .defaultConfig => made s (.config {})
  | .config dir path => s.loadedAs .config (Config.load s.files (s.directory dir) path)
  | .settings origin => s.makeSettings origin
  | .contentType value => made s (.contentType (.parse value))
  | .failure f => made s (.failure f)

/-- Makes an object and names it. -/
def makeAs (s : Session) (m : Make) (name : String) : Session × Answer :=
  match s.make m with
  | (events, .error why) => (s, ⟨.refused why, none, events⟩)
  | (events, .ok (s, o)) => (s.bind name o, ⟨.object o, s.chainOf o, events⟩)

end Session

end Attest
