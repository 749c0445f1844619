import Attest.Chain

/-!
Acts: what is done with a state, step by step.

An act may change the state and reach the world outside on its way, and a panic stops it where it
is. An assertion is an act on a chain: each looks for itself whether the chain is failed, and fails
it where something does not hold.
-/

namespace Attest

/-- Something done with a state. -/
def Act (σ α : Type) := σ → Effect σ α

namespace Act

variable {σ α β : Type}

/-- Goes on with what an act gave, unless a panic stopped it. -/
protected def bind (m : Act σ α) (f : α → Act σ β) : Act σ β := fun s =>
  let e := m s
  match e.outcome with
  | .returned a =>
    let e' := f a e.state
    ⟨e'.state, e.events ++ e'.events, e'.outcome⟩
  | .panicked message => ⟨e.state, e.events, .panicked message⟩

instance : Monad (Act σ) where
  pure a := fun s => .pure s a
  bind := Act.bind

/-- Writes a log record. -/
def log (level : Level) (text : String) : Act σ Unit :=
  fun s => ⟨s, [.logged level text], .returned ()⟩

/-- An act on a chain that has something else beside it. -/
def onChain (m : Act Chain α) : Act (Chain × σ) α := fun s =>
  let e := m s.1
  ⟨(e.state, s.2), e.events, e.outcome⟩

instance : MonadLift (Act Chain) (Act (Chain × σ)) := ⟨onChain⟩

/-! ### Acts on a chain -/

def isFailed : Act Chain Bool := fun c => .pure c c.failed

def fail (f : Failure) : Act Chain Unit := fun c => c.fail f

/-- Fails with the failure that was found, if there is one; on a failed chain nothing is done. -/
def check (v : Verdict) : Act Chain Unit := do
  if ← isFailed then return ()
  match v with
  | some f => fail f
  | none => return ()

/-- Hands out what was found, or fails and hands out the placeholder; on a failed chain it hands out
the placeholder. -/
def obtain (found : Except Failure α) (placeholder : α) : Act Chain α := do
  if ← isFailed then return placeholder
  match found with
  | .ok a => return a
  | .error f => do
    fail f
    return placeholder

end Act

end Attest
