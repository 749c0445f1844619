import Attest.Backtrack.Search
import Attest.Json.Basic
import Attest.Schema.Format
import Attest.Schema.Violation

/-!
Schemas.

A schema allows anything, nothing, or what meets its rules; or it refers to another one by its
address. A rule asks something of the values of some kinds, and nothing of all others.
-/

namespace Attest

open Backtrack (Search)

mutual

/-- What a value is held against. -/
inductive Schema where
  | anything
  | nothing
  | rules (rules : List Schema.Rule)
  | reference (target : Url)
deriving Repr

/-- A single thing that a schema asks for. -/
inductive Schema.Rule where
  /-- Refuses every value. -/
  | never
  /-- A value of a type. Where integers are strict, `1.0` is none. -/
  | type (isStrict : Bool) (name : String)
  | types (isStrict : Bool) (names : List String)
  | listed (options : Json)
  | constant (expected : Json)
  | bound (bound : Schema.Bound) (limit : Json)
  | multiple (divisor : Double)
  | size (measure : Schema.Measure) (isMost : Bool) (limit : Nat)
  | pattern (text : String) (search : Search)
  | format (name : String) (format : Schema.Format)
  /-- A text in Base64, of a JSON document if `isDocument`. -/
  | encoded (isDocument : Bool)
  /-- The text of a JSON document. -/
  | document
  | distinct
  | required (names : List String)
  | contains (schema : Schema)
  | eachItem (schema : Schema)
  /-- The first items, each by its own schema. -/
  | items (schemas : List Schema)
  /-- No more items than so many. -/
  | noMoreItems (count : Nat)
  /-- The items after so many. -/
  | furtherItems (count : Nat) (schema : Schema)
  /-- Members by their names. -/
  | properties (stated : List (String × Schema))
  /-- Members by patterns that their names match. -/
  | patterned (patterns : List (Search × Schema))
  | noProperties
  /-- Members by their names and by patterns, and what is asked of all others: to be absent, where
  there is no schema for them. -/
  | allProperties (stated : List (String × Schema)) (patterns : List (Search × Schema))
      (others : Option Schema)
  /-- The names of members, as texts. -/
  | names (schema : Schema)
  | noNames
  /-- What an object must meet where it has a member of that name. -/
  | dependencies (schemas : List (String × Schema))
  | all (schemas : List Schema)
  | any (schemas : List Schema)
  | one (schemas : List Schema)
  | not (document : Json) (schema : Schema)
  | conditional (condition : Schema) (whenTrue whenFalse : Option Schema)
deriving Repr

end

end Attest
