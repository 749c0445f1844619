import Attest.Schema.Metaschema
import Attest.Schema.Violation
import Attest.Text.Case
import Attest.Url.Reader

/-!
References from schema to schema.

A reference is a URL, relative to the name of the schema it stands in. Its fragment is a pointer,
the steps from the whole document to a part of it, unless a part has that URL for its name. A
`Library` is what references can lead to: the parts of one document, and the metaschemas.
-/

namespace Attest.Schema

/-- The name of a document that gives itself none. -/
def namelessUrl : Url :=
  { scheme := "json-schema", authority := some "", path := .segments [""] }

/-! ### Names -/

mutual

/-- The parts of a document that give themselves names, with the URLs of the names. Values to
compare with have no parts. -/
def named (d : Draft) (scope : Url) : Json → Except Url.Fault (List (Url × Json))
  | .object members => do
    match d.name? (.object members) with
    | some name =>
      let url := (← Url.read (some scope) name).withoutEmptyFragment
      return (url, .object members) :: (← namedMembers d url members)
    | none => namedMembers d scope members
  | .array items => namedItems d scope items
  | _ => .ok []

def namedItems (d : Draft) (scope : Url) : List Json → Except Url.Fault (List (Url × Json))
  | [] => .ok []
  | v :: rest => do return (← named d scope v) ++ (← namedItems d scope rest)

def namedMembers (d : Draft) (scope : Url) :
    List (String × Json) → Except Url.Fault (List (Url × Json))
  | [] => .ok []
  | (key, v) :: rest => do
    let first ← if key = "enum" ∨ key = "const" then pure [] else named d scope v
    return first ++ (← namedMembers d scope rest)

end

/-- The value under a name among names with values, of equal names the first. -/
def lookUp (url : Url) (names : List (Url × Json)) : Option Json :=
  (names.find? fun (name, _) => name.text = url.text).map (·.2)

/-! ### Pointers -/

/-- Undoes the escapes of one step of a pointer. -/
def unescapeStep : List Char → List Char
  | '~' :: '0' :: rest => '~' :: unescapeStep rest
  | '~' :: '1' :: rest => '/' :: unescapeStep rest
  | c :: rest => c :: unescapeStep rest
  | [] => []

/-- Reads the place of an item: digits without zeros before them. -/
def index? (step : String) : Option Nat :=
  let cs := step.toList
  if Url.isDigits cs ∧ (cs.length = 1 ∨ cs.head? ≠ some '0') then some (Url.decimal cs) else none

/-- The part of a document that the steps lead to, and the names that schemas on the way give
themselves. -/
def follow (d : Draft) : (steps : List String) → Json → Option (List String × Json)
  | [], v => some ([], v)
  | step :: rest, .object members => do
    let (names, found) ← follow d rest (← Json.get? step members)
    return ((d.name? (.object members)).toList ++ names, found)
  | step :: rest, .array items => do follow d rest (← items[← index? step]?)
  | _, _ => none

/-- The steps of a pointer. -/
def steps? (pointer : String) : Option (List String) :=
  match pointer.toList with
  | [] => some []
  | '/' :: rest => some ((Text.splitAt '/' rest).map fun s => String.ofList (unescapeStep s))
  | _ => none

/-! ### Libraries -/

/-- A document with the names of its parts: as seen from its own name, and from none. -/
structure Library where
  draft : Draft
  document : Json
  scope : Url
  own : List (Url × Json)
  anchors : List (Url × Json)
deriving Repr

namespace Library

/-- The library of a document. A name it gives itself must be a URL on its own. -/
def ofDocument (d : Draft) (document : Json) : Except Url.Fault Library := do
  let scope ← match d.name? document with
    | some name => Url.read none name
    | none => pure namelessUrl
  let own ← named d scope document
  return { draft := d, document, scope, own, anchors := ← named d namelessUrl document }

/-- Why nothing can be had from a URL: only documents at hand are looked at. -/
def unreachable (url : Url) : Unreachable :=
  if url.scheme = "http" ∨ url.scheme = "https" then .unsent url
  else if url.scheme = "file" then if url.authority = some "" then .noFile else .notLocal
  else if url.scheme = "json-schema" then .nameless
  else .unknownScheme url.scheme

/-- The document at a URL. Of parts with equal names it is the last. -/
def document? (l : Library) (url : Url) : Except Violation Json :=
  if url.text = namelessUrl.text then .ok l.document
  else
    match lookUp url l.own.reverse with
    | some found => .ok found
    | none =>
      match Draft.all.find? (·.address = url.text) with
      | some d => .ok d.metaschema
      | none => .error (.unreachable url (unreachable url))

/-- Goes from a URL along the names met on the way to a part, but for the first. -/
def scopeAfter (url : Url) (names : List String) : Except Violation Url :=
  match (names.drop 1).foldlM (fun url name => Url.read (some url) name) url with
  | .ok url => .ok url
  | .error fault => .error (.wrongUrl fault)

/-- What a reference leads to, and the URL that references in it are relative to. -/
def locate (l : Library) (target : Url) : Except Violation (Url × Json) := do
  let resource := target.withoutFragment
  let pointer ← match Text.Utf8.decode (Url.decodeBytes (target.fragment.getD "").toList) with
    | .ok text => pure text
    | .error error => throw (.wrongBytes error)
  match lookUp target l.anchors with
  | some found => return (resource, found)
  | none =>
    let document ← l.document? resource
    match (steps? pointer).bind (follow l.draft · document) with
    | some (names, found) => return (← scopeAfter resource names, found)
    | none => throw (.invalidReference target)

end Library

end Attest.Schema
