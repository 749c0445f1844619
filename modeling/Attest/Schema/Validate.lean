import Attest.Schema.Reader

/-!
Holding values against schemas.

`Schema.violations` gives what a value violates, rule by rule, the violations inside a part where
the rule that holds the part stands. References are followed through a library; since they can lead
anywhere, the number of steps is bounded, by more than any schema without circular references takes.
-/

namespace Attest

open Backtrack (Search)

namespace Schema

/-- A way to tell what a value violates of a schema. -/
abbrev Ask := Schema → Json → List Violation

/-! ### Items -/

def checkEachItem (ask : Ask) (s : Schema) (v : Json) : List Violation :=
  match v with
  | .array items => items.flatMap (ask s)
  | _ => []

def checkItems (ask : Ask) (schemas : List Schema) (v : Json) : List Violation :=
  match v with
  | .array items => (items.zip schemas).flatMap fun (item, s) => ask s item
  | _ => []

def checkNoMoreItems (count : Nat) (v : Json) : List Violation :=
  match v with
  | .array items =>
    let further := items.drop count
    if further.isEmpty then [] else [.unexpectedItems further]
  | _ => []

def checkFurtherItems (ask : Ask) (count : Nat) (s : Schema) (v : Json) : List Violation :=
  match v with
  | .array items => (items.drop count).flatMap (ask s)
  | _ => []

def checkContains (ask : Ask) (s : Schema) (v : Json) : List Violation :=
  match v with
  | .array items => if items.any fun item => (ask s item).isEmpty then [] else [.noneContained v]
  | _ => []

/-! ### Members -/

def checkProperties (ask : Ask) (stated : List (String × Schema)) (v : Json) : List Violation :=
  match v with
  | .object members => stated.flatMap fun (name, s) =>
      match Json.get? name members with
      | some value => ask s value
      | none => []
  | _ => []

def checkPatterned (ask : Ask) (patterns : List (Search × Schema)) (v : Json) : List Violation :=
  match v with
  | .object members => patterns.flatMap fun (search, s) =>
      members.flatMap fun (name, value) => if occursIn search name then ask s value else []
  | _ => []

/-- Where no member is allowed, the first one is refused. -/
def checkNoProperties (v : Json) : List Violation :=
  match v with
  | .object ((_, first) :: _) => [.falseSchema first]
  | _ => []

/-- The schemas for a member: that of its name, and those of the patterns that occur in it. -/
def schemasFor (stated : List (String × Schema)) (patterns : List (Search × Schema))
    (name : String) : List Schema :=
  (stated.lookup name).toList ++
    patterns.filterMap fun (search, s) => if occursIn search name then some s else none

/-- Checks the members one by one. Those that must be absent are told together, after the rest. -/
def checkAllProperties (ask : Ask) (stated : List (String × Schema))
    (patterns : List (Search × Schema)) (others : Option Schema) (v : Json) : List Violation :=
  match v with
  | .object members =>
    let inside := members.flatMap fun (name, value) =>
      match schemasFor stated patterns name, others with
      | [], some s => ask s value
      | schemas, _ => schemas.flatMap (ask · value)
    let extra := members.filterMap fun (name, _) =>
      if others.isNone ∧ (schemasFor stated patterns name).isEmpty then some name else none
    inside ++ if extra.isEmpty then [] else [.unexpectedProperties extra]
  | _ => []

def checkNames (ask : Ask) (s : Schema) (v : Json) : List Violation :=
  match v with
  | .object members => members.flatMap fun (name, _) => ask s (.string name)
  | _ => []

def checkNoNames (v : Json) : List Violation :=
  match v with
  | .object (_ :: _) => [.falseSchema v]
  | _ => []

def checkDependencies (ask : Ask) (schemas : List (String × Schema)) (v : Json) :
    List Violation :=
  match v with
  | .object members => schemas.flatMap fun (name, s) =>
      if (Json.get? name members).isSome then ask s v else []
  | _ => []

/-! ### Combinations -/

def checkAny (ask : Ask) (schemas : List Schema) (v : Json) : List Violation :=
  if schemas.any fun s => (ask s v).isEmpty then [] else [.noneOf v "anyOf"]

def checkOne (ask : Ask) (schemas : List Schema) (v : Json) : List Violation :=
  match schemas.countP fun s => (ask s v).isEmpty with
  | 0 => [.noneOf v "oneOf"]
  | 1 => []
  | _ => [.severalOf v]

def checkConditional (ask : Ask) (condition : Schema) (whenTrue whenFalse : Option Schema)
    (v : Json) : List Violation :=
  match if (ask condition v).isEmpty then whenTrue else whenFalse with
  | some s => ask s v
  | none => []

/-! ### Rules -/

/-- What a value violates of one rule. -/
def Rule.violations (ask : Ask) (v : Json) : Rule → List Violation
  | .never => [.falseSchema v]
  | .type isStrict name => checkType isStrict name v
  | .types isStrict wanted => checkTypes isStrict wanted v
  | .listed options => checkEnum options v
  | .constant expected => checkConst expected v
  | .bound b limit => checkBound b limit v
  | .multiple divisor => checkMultiple divisor v
  | .size m isMost limit => checkSize m isMost limit v
  | .pattern text search => checkPattern text search v
  | .format name kind => checkFormat name kind v
  | .encoded holdsDocument => checkEncoded holdsDocument v
  | .document => checkDocument v
  | .distinct => checkDistinct v
  | .required wanted => checkRequired wanted v
  | .contains s => checkContains ask s v
  | .eachItem s => checkEachItem ask s v
  | .items schemas => checkItems ask schemas v
  | .noMoreItems count => checkNoMoreItems count v
  | .furtherItems count s => checkFurtherItems ask count s v
  | .properties stated => checkProperties ask stated v
  | .patterned patterns => checkPatterned ask patterns v
  | .noProperties => checkNoProperties v
  | .allProperties stated patterns others => checkAllProperties ask stated patterns others v
  | .names s => checkNames ask s v
  | .noNames => checkNoNames v
  | .dependencies schemas => checkDependencies ask schemas v
  | .all schemas => schemas.flatMap (ask · v)
  | .any schemas => checkAny ask schemas v
  | .one schemas => checkOne ask schemas v
  | .not stated s => if (ask s v).isEmpty then [.forbidden stated v] else []
  | .conditional condition whenTrue whenFalse => checkConditional ask condition whenTrue whenFalse v

/-- Reads what a reference leads to. -/
def Library.schema (l : Library) (target : Url) : Except Violation Schema := do
  let (scope, document) ← l.locate target
  read l.draft scope document

/-- What a value violates of a schema, in at most `fuel` steps from schema to schema. A reference to
what is no schema is violated by every value. -/
def violationsWithin (l : Library) : (fuel : Nat) → Ask
  | 0, _, _ => []
  | fuel + 1, schema, v =>
    match schema with
    | .anything => []
    | .nothing => [.falseSchema v]
    | .rules asked => asked.flatMap (·.violations (violationsWithin l fuel) v)
    | .reference target =>
      match l.schema target with
      | .ok s => violationsWithin l fuel s v
      | .error violation => [violation]

mutual

/-- The number of values in a document. -/
def nodeCount : Json → Nat
  | .array items => nodeCountItems items + 1
  | .object members => nodeCountMembers members + 1
  | _ => 1

def nodeCountItems : List Json → Nat
  | [] => 0
  | v :: rest => nodeCount v + nodeCountItems rest

def nodeCountMembers : List (String × Json) → Nat
  | [] => 0
  | (_, v) :: rest => nodeCount v + nodeCountMembers rest

end

/-- Without circular references, a step that does not enter a part of the value leads to a place of
the document or of a metaschema not seen since the last such step. -/
def stepBound (document v : Json) : Nat :=
  let places := Draft.all.foldl (fun n d => n + nodeCount d.metaschema) (nodeCount document)
  2 * (places + 1) * (v.depth + 2)

/-- What a value violates of a document that states a schema. -/
def violations (l : Library) (schema : Schema) (v : Json) : List Violation :=
  violationsWithin l (stepBound l.document v) schema v

/-! ### Documents -/

/-- The first rule for schemas that a document violates. -/
def firstFault? (d : Draft) (document : Json) : Option Violation :=
  let found : Except Violation (List Violation) := do
    let l ← (Library.ofDocument d d.metaschema).mapError .wrongUrl
    return violations l (← read d l.scope l.document) document
  match found with
  | .ok found => found.head?
  | .error violation => some violation

/-- What a value violates of the schema that a document states, or why the document states none: its
names are no URLs, it violates the rules for schemas, or a part of it cannot be read. -/
def check (document v : Json) : Except Violation (List Violation) := do
  let d := Draft.ofDocument document
  let l ← (Library.ofDocument d document).mapError .wrongUrl
  match firstFault? d document with
  | some violation => throw violation
  | none => return violations l (← read d l.scope document) v

end Schema

end Attest
