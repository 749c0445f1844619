import Attest.Json.Basic

/-!
Versions of the rules for schemas.

A document names the version it follows; one that names none follows the last. The versions differ
in the keywords they know.
-/

namespace Attest.Schema

/-- A version of the rules for schemas. -/
inductive Draft where
  | four
  | six
  | seven
deriving DecidableEq, Repr

namespace Draft

/-- The address of the version. -/
def address : Draft → String
  | .four => "http://json-schema.org/draft-04/schema"
  | .six => "http://json-schema.org/draft-06/schema"
  | .seven => "http://json-schema.org/draft-07/schema"

def all : List Draft := [.four, .six, .seven]

/-- The version with that address, which may end in number signs. -/
def ofAddress? (text : String) : Option Draft :=
  let address := String.ofList (text.toList.reverse.dropWhile (· = '#')).reverse
  all.find? (·.address = address)

/-- The text that a document holds under a name. -/
def textUnder? (name : String) : Json → Option String
  | .object members =>
    match Json.get? name members with
    | some (.string text) => some text
    | _ => none
  | _ => none

/-- The version that a document follows. -/
def ofDocument (document : Json) : Draft :=
  ((textUnder? "$schema" document).bind ofAddress?).getD .seven

/-- The name that a schema gives itself. -/
def name? (d : Draft) (document : Json) : Option String :=
  textUnder? (if d = .four then "id" else "$id") document

/-- The keywords that came after the first version. -/
def laterKeywords : List String :=
  ["const", "contains", "contentEncoding", "contentMediaType", "exclusiveMaximum",
    "exclusiveMinimum", "propertyNames"]

def knows (d : Draft) (keyword : String) : Bool :=
  if keyword = "if" then d = .seven else d ≠ .four || !laterKeywords.contains keyword

end Draft

end Attest.Schema
