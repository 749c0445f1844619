import Attest.Backtrack.Machine
import Attest.Backtrack.Reader

/-!
Looking for a pattern anywhere in a text.

A pattern without parts that must be tried is a plain pattern. Any other is tried from place to
place: before it, as few characters as possible are passed over.
-/

namespace Attest.Backtrack

/-- A pattern ready to be looked for. -/
inductive Search where
  | plain (m : Pattern.Matcher)
  | tried (plan : Plan)
deriving Repr

namespace Search

/-- Passes over as few characters as possible. -/
def anywhere : Plan := .many false (.anyChar true)

/-- Reads a pattern. -/
def ofPattern? (text : String) : Option Search := do
  let (part, recalled) ← Part.read? text
  if part.isHard recalled then
    let plan ← part.plan recalled true
    return .tried (.sequence anywhere (.group 0 plan))
  else
    let m ← (Pattern.compile (part.text 0)).toOption
    return .plain m

/-- Whether the pattern occurs in the text. -/
def occurs (text : String) : Search → Except Limit Bool
  | .plain m => .ok (m.accepts text)
  | .tried plan => plan.succeeds text

end Search

end Attest.Backtrack
