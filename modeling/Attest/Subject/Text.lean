import Attest.Act
import Attest.Failure
import Attest.Pattern.Meaning
import Attest.Text.Case
import Attest.Unicode.CaseMap

/-!
Checks on a text.
-/

namespace Attest

/-- A check on a text. -/
inductive TextCheck where
  | empty
  | notEmpty
  | equal (expected : String)
  | notEqual (unexpected : String)
  /-- Equality in lower case. -/
  | equalFold (expected : String)
  | contains (needle : String)
  | notContains (needle : String)
  /-- A match of a pattern begins somewhere in the text; an invalid pattern is matched by none. -/
  | matching (pattern : String)
  /-- The length in characters. -/
  | length (expected : Nat)
deriving DecidableEq, Repr

namespace TextCheck

open Text (quote)

/-- Whether `needle` occurs in the text. -/
def occurs (needle text : String) : Bool := Text.containsList needle.toList text.toList

/-- What a text lacks to pass, quoted after `words`, and the text. -/
def contrast (words expected actual : String) : String :=
  "expected string " ++ words ++ ":\n  " ++ quote expected ++ "\n\nbut got:\n  " ++ quote actual

/-- The failure of a text in which no match of the pattern begins. -/
def unmatched (pattern text : String) : Failure :=
  .value ("expected string matching:\n  " ++ pattern ++ "\n\nbut got:\n  " ++ quote text)

def invalidPattern (pattern : String) (e : Pattern.CompileError) : Failure :=
  .value ("invalid regular expression " ++ quote pattern ++ ": " ++ e.message pattern)

/-- The verdict of a pattern. -/
def matchVerdict (pattern text : String) : Verdict :=
  match Pattern.compile pattern with
  | .ok m => require (m.accepts text) (unmatched pattern text)
  | .error e => some (invalidPattern pattern e)

def verdict (text : String) : TextCheck → Verdict
  | .empty =>
    require text.isEmpty (.value ("expected empty string, but got:\n  " ++ quote text))
  | .notEmpty => require (!text.isEmpty) (.value "expected non-empty string")
  | .equal expected =>
    require (text == expected)
      (.value (Failure.mismatchMessage "string" (quote expected) (quote text)))
  | .notEqual unexpected =>
    require (text != unexpected)
      (.value ("expected string not equal to:\n  " ++ quote unexpected))
  | .equalFold expected =>
    require (Unicode.toLower text == Unicode.toLower expected)
      (.value (Failure.mismatchMessage "string (case-insensitive)" (quote expected) (quote text)))
  | .contains needle =>
    require (occurs needle text) (.value (contrast "containing" needle text))
  | .notContains needle =>
    require (!occurs needle text) (.value (contrast "not containing" needle text))
  | .matching pattern => matchVerdict pattern text
  | .length expected =>
    require (text.length == expected)
      (.value (Failure.mismatchMessage "string length" (toString expected) (toString text.length)))

/-- A pattern is compiled on an OK chain alone; the rest is checked as it is. -/
def act (text : String) : TextCheck → Act Chain Unit
  | .matching pattern => do
    if ← Act.isFailed then return ()
    match Pattern.compile pattern with
    | .ok m => Act.check (require (m.accepts text) (unmatched pattern text))
    | .error e => Act.fail (invalidPattern pattern e)
  | k => Act.check (k.verdict text)

end TextCheck

end Attest
