import Attest.Config.Load
import Attest.Response

/-!
Settings that the responses of one test share.

Every response gets a chain of its own; all of them report to the same reporter and quote as much of
a body as the settings say.
-/

namespace Attest

/-- A reporter, and how many body bytes messages quote. -/
structure Settings where
  reporter : Reporter
  bodyPreview : Nat := defaultPreview
deriving DecidableEq, Repr

namespace Settings

def ofConfig (c : Config) : Settings := ⟨c.toReporter, c.bodyPreview⟩

/-- The settings of a directory's configuration file. -/
def ofDirectory (files : Files) (dir : Path) : List Event × Except Config.LoadError Settings :=
  let (events, loaded) := Config.load files dir none
  (events, loaded.map ofConfig)

/-- The chain of a new response. -/
def chain (e : Settings) : Chain := { reporter := e.reporter }

/-- The response as it is asserted on under these settings. -/
def adopt (e : Settings) (r : Response) : Response := { r with previewLimit := e.bodyPreview }

end Settings

end Attest
