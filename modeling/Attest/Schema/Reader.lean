import Attest.Schema.Keyword
import Attest.Schema.Reference

/-!
Reading schemas.

`Schema.read` takes a document to the schema that it states, keyword by keyword in the order of
their names. A keyword that holds what it must not is a violation, told of what it holds. What a
reference leads to is not read yet.
-/

namespace Attest

open Backtrack (Search)

namespace Schema

/-- A way to read a schema. -/
abbrev Read := Json → Except Violation Schema

/-- Reads schemas in a row. -/
def readAll (read : Read) (documents : List Json) : Except Violation (List Schema) :=
  documents.mapM read

/-- Reads schemas under names. -/
def readMembers (read : Read) (members : Json.Members) :
    Except Violation (List (String × Schema)) :=
  members.mapM fun (name, s) => do return (name, ← read s)

/-- The items of a list. -/
def listed (s : Json) : Except Violation (List Json) :=
  match s with
  | .array items => .ok items
  | _ => .error (.wrongType s "array")

/-- The members of an object. -/
def membersOf (s : Json) : Except Violation Json.Members :=
  match s with
  | .object members => .ok members
  | _ => .error (.wrongType s "object")

def textOf (s : Json) : Except Violation String :=
  match s with
  | .string text => .ok text
  | _ => .error (.wrongType s "string")

/-! ### Keywords that hold no schema -/

/-- Reads the names of types. One name that is not known asks for nothing. -/
def readType (isStrict : Bool) (s : Json) : Except Violation (List Rule) :=
  let single (name : String) : List Rule :=
    if typeNames.contains name then [.type isStrict name] else []
  match s with
  | .string name => .ok (single name)
  | .array [item] => do return single (← textOf item)
  | .array items => do
    let names ← items.mapM fun item => do
      let name ← textOf item
      if typeNames.contains name then return name
      else throw (.notListed item (.array (typeNames.map .string)))
    return [.types isStrict (typeNames.filter names.contains)]
  | _ => .error (.wrongTypes s ["array", "string"])

/-- Reads a limit, which is written as a whole number from zero. -/
def readSize (m : Measure) (isMost : Bool) (s : Json) : Except Violation (List Rule) :=
  match s with
  | .integer n =>
    if 0 ≤ n then .ok [.size m isMost n.toNat] else .error (.outOfBound s .minimum (.integer 0))
  | _ => .error (.wrongType s "integer")

def readBound (b : Bound) (s : Json) : Except Violation (List Rule) :=
  match s.toDouble? with
  | some _ => .ok [.bound b s]
  | none => .error (.wrongType s "number")

def readMultiple (s : Json) : Except Violation (List Rule) :=
  match s.toDouble? with
  | some divisor => .ok [.multiple divisor]
  | none => .error (.wrongType s "number")

def readPattern (s : Json) : Except Violation (List Rule) := do
  let text ← textOf s
  match search? text with
  | some search => return [.pattern text search]
  | none => throw (.wrongFormat s "regex")

def readFormat (d : Draft) (s : Json) : Except Violation (List Rule) := do
  let name ← textOf s
  return (Format.of? d name).toList.map (.format name ·)

/-- Reads the kind of a text's content, and its encoding with it. -/
def readContent (encoding : Option Json) (s : Json) : Except Violation (List Rule) := do
  if (← textOf s) ≠ "application/json" then return []
  match encoding with
  | none => return [.document]
  | some encoding => return if (← textOf encoding) = "base64" then [.encoded true] else []

/-- Reads an encoding. Beside the kind of content it is read there. -/
def readEncoding (content : Option Json) (s : Json) : Except Violation (List Rule) := do
  if content.isSome then return []
  return if (← textOf s) = "base64" then [.encoded false] else []

def readDistinct (s : Json) : Except Violation (List Rule) :=
  match s with
  | .bool flag => .ok (if flag then [.distinct] else [])
  | _ => .error (.wrongType s "boolean")

def readRequired (s : Json) : Except Violation (List Rule) := do
  return [.required (← (← listed s).mapM textOf)]

/-! ### Keywords that hold schemas -/

/-- Reads what is asked of items that a list of schemas leaves over. Where no items are allowed, no
value is, whatever its kind. -/
def readAdditionalItems (read : Read) (items : Option Json) (s : Json) :
    Except Violation (List Rule) :=
  match items, s with
  | some (.array schemas), .object _ => do return [.furtherItems schemas.length (← read s)]
  | some (.array schemas), .bool false => .ok [.noMoreItems schemas.length]
  | some (.bool false), _ => .ok [.never]
  | _, _ => .ok []

def readItems (read : Read) (s : Json) : Except Violation (List Rule) :=
  match s with
  | .array schemas => do return [.items (← readAll read schemas)]
  | .object _ => do return [.eachItem (← read s)]
  | .bool false => .ok [.eachItem .nothing]
  | _ => .ok []

/-- Whether the members that properties and patterns state are left to the keyword for all others.
-/
def isLeftToOthers (others : Option Json) : Bool :=
  match others with
  | some (.bool false) => true
  | some (.object _) => true
  | _ => false

def readProperties (read : Read) (others : Option Json) (s : Json) :
    Except Violation (List Rule) := do
  if isLeftToOthers others then return []
  return [.properties (← readMembers read (← membersOf s))]

/-- Reads schemas under patterns, which are taken as they are written. -/
def readPatterns (read : Read) (refuse : Json → Violation) (members : Json.Members) :
    Except Violation (List (Search × Schema)) :=
  members.mapM fun (pattern, s) =>
    match Search.ofPattern? pattern with
    | some search => do return (search, ← read s)
    | none => throw (refuse s)

def readPatternProperties (read : Read) (others : Option Json) (s : Json) :
    Except Violation (List Rule) := do
  if isLeftToOthers others then return []
  return [.patterned (← readPatterns read (.wrongFormat · "regex") (← membersOf s))]

/-- Reads the properties beside the keyword for all other members. -/
def readStated (read : Read) (properties : Option Json) :
    Except Violation (List (String × Schema)) :=
  match properties with
  | none => .ok []
  | some (.object members) => readMembers read members
  | some _ => .error .unusable

/-- Reads the patterns beside the keyword for all other members. What is wrong with them is not
told.
-/
def readPatternsBeside (read : Read) (patterns : Option Json) (s : Json) :
    Except Violation (List (Search × Schema)) :=
  match patterns with
  | none => .ok []
  | some (.object members) =>
    match readPatterns read (fun _ => .unusable) members with
    | .ok patterns => .ok patterns
    | .error _ => .error .unusable
  | some _ => .error (.wrongType s "object")

/-- Reads what is asked of the members that neither properties nor patterns state. The rule then
covers those too. -/
def readOthers (read : Read) (properties patterns : Option Json) (s : Json) :
    Except Violation (List Rule) := do
  let patterned ← readPatternsBeside read patterns s
  match s with
  | .bool true => return []
  | .bool false =>
    if properties.isNone ∧ patterns.isNone then return [.noProperties]
    else return [.allProperties (← readStated read properties) patterned none]
  | _ =>
    if patterns.isSome then
      let others ← read s
      return [.allProperties (← readStated read properties) patterned (some others)]
    else
      let stated ← readStated read properties
      return [.allProperties stated patterned (some (← read s))]

def readNames (read : Read) (s : Json) : Except Violation (List Rule) :=
  match s with
  | .object _ => do return [.names (← read s)]
  | .bool false => .ok [.noNames]
  | _ => .ok []

def readDependencies (read : Read) (s : Json) : Except Violation (List Rule) := do
  let schemas ← (← membersOf s).mapM fun (name, d) => do
    match d with
    | .array _ => return (name, .rules (← readRequired d))
    | _ => return (name, ← read d)
  return [.dependencies schemas]

/-- Reads a condition; without a branch it asks for nothing, and is not read. -/
def readIf (read : Read) (yes no : Option Json) (s : Json) : Except Violation (List Rule) := do
  if yes.isNone ∧ no.isNone then return []
  let condition ← read s
  let whenTrue ← yes.mapM read
  return [.conditional condition whenTrue (← no.mapM read)]

/-- Reads what a keyword asks for; `siblings` are the keywords beside it. -/
def readKeyword (d : Draft) (read : Read) (siblings : Json.Members) (keyword : String) (s : Json) :
    Except Violation (List Rule) :=
  let beside (name : String) : Option Json := Json.get? name siblings
  let excludes (name : String) : Bool :=
    d = .four && match beside name with
      | some (.bool flag) => flag
      | _ => false
  if !d.knows keyword then .ok []
  else
    match keyword with
    | "additionalItems" => readAdditionalItems read (beside "items") s
    | "additionalProperties" =>
      readOthers read (beside "properties") (beside "patternProperties") s
    | "allOf" => do return [.all (← readAll read (← listed s))]
    | "anyOf" => do return [.any (← readAll read (← listed s))]
    | "const" => .ok [.constant s]
    | "contains" => do return [.contains (← read s)]
    | "contentEncoding" => readEncoding (beside "contentMediaType") s
    | "contentMediaType" => readContent (beside "contentEncoding") s
    | "dependencies" => readDependencies read s
    | "enum" => do return [.listed (.array (← listed s))]
    | "exclusiveMaximum" => readBound .exclusiveMaximum s
    | "exclusiveMinimum" => readBound .exclusiveMinimum s
    | "format" => readFormat d s
    | "if" => readIf read (beside "then") (beside "else") s
    | "items" => readItems read s
    | "maximum" => readBound (if excludes "exclusiveMaximum" then .exclusiveMaximum else .maximum) s
    | "maxItems" => readSize .items true s
    | "maxLength" => readSize .characters true s
    | "maxProperties" => readSize .properties true s
    | "minimum" => readBound (if excludes "exclusiveMinimum" then .exclusiveMinimum else .minimum) s
    | "minItems" => readSize .items false s
    | "minLength" => readSize .characters false s
    | "minProperties" => readSize .properties false s
    | "multipleOf" => readMultiple s
    | "not" => do return [.not s (← read s)]
    | "oneOf" => do return [.one (← readAll read (← listed s))]
    | "pattern" => readPattern s
    | "patternProperties" => readPatternProperties read (beside "additionalProperties") s
    | "properties" => readProperties read (beside "additionalProperties") s
    | "propertyNames" => readNames read s
    | "required" => readRequired s
    | "type" => readType (d = .four) s
    | "uniqueItems" => readDistinct s
    | _ => .ok []

/-- Reads a URL relative to the schema it stands in. -/
def readUrl (scope : Url) (text : String) : Except Violation Url :=
  match Url.read (some scope) text with
  | .ok url => .ok url
  | .error fault => .error (.wrongUrl fault)

/-- Reads a schema that lies less than `fuel` levels deep. A reference stands for all that is beside
it. -/
def readWithin (d : Draft) : (fuel : Nat) → (scope : Url) → Read
  | 0, _, _ => .ok .anything
  | fuel + 1, scope, s => do
    let scope ← match d.name? s with
      | some name => readUrl scope name
      | none => pure scope
    match s with
    | .bool flag => return if flag then .anything else .nothing
    | .object keywords =>
      match Json.get? "$ref" keywords with
      | some target => return .reference (← readUrl scope (← textOf target))
      | none =>
        let rules ← keywords.mapM fun (keyword, s) =>
          readKeyword d (readWithin d fuel scope) keywords keyword s
        return .rules rules.flatten
    | _ => throw (.wrongTypes s ["boolean", "object"])

/-- Reads the schema that a document states, where references are relative to `scope`. -/
def read (d : Draft) (scope : Url) (document : Json) : Except Violation Schema :=
  readWithin d (document.depth + 1) scope document

end Schema

end Attest
