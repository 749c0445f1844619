import Attest.Description

/-!
Items: the things that hold a chain, with everything they can be asked to do.

An item is a chain itself, a response, or a subject taken from a response. `Item.call` runs a call
on it and gives the item and its chain as they are afterwards; `Item.answer` looks without touching.
-/

namespace Attest

/-- A thing that holds a chain; the chain itself is kept elsewhere, for others may hold it too. -/
inductive Item where
  | chain
  | response (r : Response)
  | subject (s : Subject)

/-- A call on a chain. -/
inductive ChainCall where
  | fail (f : Failure)
  | reset
  | requireOk
  | requireFailed
deriving DecidableEq, Repr

def Chain.call (c : Chain) : ChainCall → Effect Chain Unit
  | .fail f => c.fail f
  | .reset => c.reset
  | .requireOk => c.requireOk
  | .requireFailed => c.requireFailed

/-- A call on an item. -/
inductive ItemCall where
  | chain (k : ChainCall)
  | response (k : ResponseCall)
  | subject (k : Call)

namespace Item

/-- The item that takes the chain, or both, from what the call left. -/
def call (c : Chain) : Item → ItemCall → Option (Effect (Chain × Item) Reply)
  | .chain, .chain k =>
    let e := c.call k
    some ⟨(e.state, .chain), e.events, e.outcome.map fun _ => .nothing⟩
  | .response r, .response k =>
    let e := r.call c k
    some ⟨(e.state.1, .response e.state.2), e.events, e.outcome⟩
  | .subject s, .subject k =>
    (s.act k).map fun m =>
      let e := m c
      ⟨(e.state, .subject s), e.events, e.outcome⟩
  | _, _ => none

end Item

/-- A question that leaves everything as it is. -/
inductive Question where
  | description
  | isFailed
  | failureKind
  | status
  | fields
  | hasBody
  | rawDescription
deriving DecidableEq, Repr

/-- What is told about an object. -/
inductive Told where
  | text (t : String)
  | maybeText (t : Option String)
  | texts (ts : List String)
  | flag (b : Bool)
  | number (n : Nat)
  | fields (fs : List (String × List UInt8))

namespace Item

def description (c : Chain) : Item → String
  | .chain => c.description
  | .response r => r.description c
  | .subject s => s.description c

/-- The answer to a question. None: it cannot be asked about this item. -/
def answer (c : Chain) : Item → Question → Option Told
  | item, .description => some (.text (item.description c))
  | .chain, .isFailed => some (.flag c.failed)
  | .chain, .failureKind => some (.maybeText (c.kind.map (·.label)))
  | .response r, .status => some (.number r.status.code)
  | .response r, .fields => some (.fields r.headers.fields)
  | .response r, .hasBody => some (.flag r.body.hasStream)
  | .response r, .rawDescription => some (.text r.rawDescription)
  | _, _ => none

end Item

end Attest
