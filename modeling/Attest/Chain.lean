import Attest.Reporter

/-!
Chains: the failure state that the assertions of one response share.

A chain is OK or failed. The first failure marks it, keeps its kind and is reported; from then on
nothing more is reported until the chain is reset.
-/

namespace Attest

/-- The failure state of one sequence of assertions, and where its failure is reported. -/
structure Chain where
  reporter : Reporter
  failed : Bool := false
  kind : Option FailureKind := none
deriving DecidableEq, Repr

/-- What a call did: the state after it, what reached the world outside, and how it ended. -/
structure Effect (σ α : Type) where
  state : σ
  events : List Event
  outcome : Outcome α

namespace Effect

/-- A call that only gives a result. -/
def pure {σ α : Type} (state : σ) (result : α) : Effect σ α := ⟨state, [], .returned result⟩

def map {σ α β : Type} (f : α → β) (e : Effect σ α) : Effect σ β :=
  ⟨e.state, e.events, e.outcome.map f⟩

end Effect

namespace Chain

/-- A chain that is failed from the start, without a report. -/
def failedFrom (reporter : Reporter) : Chain := { reporter := reporter, failed := true }

/-- Marks an OK chain as failed and reports the failure; on a failed chain the failure is dropped
with a warning. -/
def fail (c : Chain) (f : Failure) : Effect Chain Unit :=
  if c.failed then ⟨c, [.logged .warn ("chain already failed, dropping: " ++ f.text)], .returned ()⟩
  else
    { state := { c with failed := true, kind := some f.kind }
      events := c.reporter.events f.text
      outcome := c.reporter.outcome f.text }

/-- Makes the chain OK again. -/
def reset (c : Chain) : Effect Chain Unit :=
  ⟨{ c with failed := false, kind := none }, [.logged .debug "resetting chain"], .returned ()⟩

/-- The panic of asserting that a chain is OK, when it is not. -/
def okPanic? (c : Chain) : Option String :=
  match c.kind with
  | some kind => some ("expected chain to be OK, but it failed with " ++ kind.label)
  | none => if c.failed then some "expected chain to be OK, but it is failed" else none

/-- The panic of asserting that a chain is failed, when it is not. -/
def failedPanic? (c : Chain) : Option String :=
  if c.failed then none else some "expected chain to be failed, but it is OK"

/-- Ends quietly, or with the panic. -/
def assertion (c : Chain) (panic? : Option String) : Effect Chain Unit :=
  match panic? with
  | some m => ⟨c, [], .panicked m⟩
  | none => ⟨c, [], .returned ()⟩

def requireOk (c : Chain) : Effect Chain Unit := c.assertion c.okPanic?

def requireFailed (c : Chain) : Effect Chain Unit := c.assertion c.failedPanic?

end Chain

end Attest
