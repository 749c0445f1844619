import Attest.Schema.Draft

/-!
Which documents are schemas.

For each version the rules are themselves a schema, its metaschema: it says of each keyword what it
may hold. A document that violates it is no schema.
-/

namespace Attest.Schema

private def node (members : List (String × Json)) : Json := .object (Json.ofMembers members)

private def typed (type : String) : Json := node [("type", .string type)]

private def formatted (format : String) : Json :=
  node [("type", .string "string"), ("format", .string format)]

private def refer (target : String) : Json := node [("$ref", .string target)]

private def orElse (value : Json) (members : List (String × Json)) : Json :=
  node (("default", value) :: members)

private def oneOfThese (schemas : List Json) : String × Json := ("anyOf", .array schemas)

/-- A place for any schema. -/
private def anySchema : Json := refer "#"

private def listOfSchemas : Json := refer "#/definitions/schemaArray"

private def listOfStrings : Json := refer "#/definitions/stringArray"

private def simpleType : Json := refer "#/definitions/simpleTypes"

private def mapOfSchemas : List (String × Json) :=
  [("type", .string "object"), ("additionalProperties", anySchema), ("default", node [])]

private def distinctList (members : List (String × Json)) : Json :=
  node ([("type", .string "array"), ("minItems", .integer 1), ("uniqueItems", .bool true)] ++
    members)

/-- A type by its name, or several. -/
private def typeRule : Json := node [oneOfThese [simpleType, distinctList [("items", simpleType)]]]

/-- A list of schemas, and the names of types. -/
private def sharedDefinitions : List (String × Json) :=
  [("schemaArray",
      node [("type", .string "array"), ("minItems", .integer 1), ("items", anySchema)]),
    ("simpleTypes", node [("enum", .array (["array", "boolean", "integer", "null", "number",
      "object", "string"].map .string))])]

/-- Whole numbers from zero, under two names: the second has zero where nothing is said. -/
private def naturals (name orZero : String) : List (String × Json) :=
  [(name, node [("type", .string "integer"), ("minimum", .integer 0)]),
    (orZero, node [("allOf", .array [refer ("#/definitions/" ++ name), orElse (.integer 0) []])])]

/-- The keywords for sizes. -/
private def sizeRules (name orZero : String) : List (String × Json) :=
  let natural := refer ("#/definitions/" ++ name)
  let naturalOrZero := refer ("#/definitions/" ++ orZero)
  [("maxItems", natural), ("minItems", naturalOrZero), ("maxLength", natural),
    ("minLength", naturalOrZero), ("maxProperties", natural), ("minProperties", naturalOrZero)]

/-- The keywords that every version knows, and rules alike. -/
private def sharedRules : List (String × Json) :=
  [("title", typed "string"), ("description", typed "string"), ("maximum", typed "number"),
    ("minimum", typed "number"), ("pattern", formatted "regex"),
    ("uniqueItems", orElse (.bool false) [("type", .string "boolean")]),
    ("required", listOfStrings), ("definitions", node mapOfSchemas),
    ("properties", node mapOfSchemas), ("dependencies", node [("type", .string "object"),
      ("additionalProperties", node [oneOfThese [anySchema, listOfStrings]])]),
    ("type", typeRule), ("format", typed "string"), ("allOf", listOfSchemas),
    ("anyOf", listOfSchemas), ("oneOf", listOfSchemas), ("not", anySchema)]

/-! ### The first version -/

private def orBoolean : Json := orElse (node []) [oneOfThese [typed "boolean", anySchema]]

private def rulesFour : List (String × Json) := sharedRules ++
  sizeRules "positiveInteger" "positiveIntegerDefault0" ++
  [("id", typed "string"), ("$schema", typed "string"), ("default", node []),
    ("multipleOf", node [("type", .string "number"), ("minimum", .integer 0),
      ("exclusiveMinimum", .bool true)]),
    ("exclusiveMaximum", typed "boolean"), ("exclusiveMinimum", typed "boolean"),
    ("additionalItems", orBoolean), ("additionalProperties", orBoolean),
    ("items", orElse (node []) [oneOfThese [anySchema, listOfSchemas]]),
    ("patternProperties", node mapOfSchemas), ("enum", distinctList [])]

private def metaschemaFour : Json := node
  [("id", .string "http://json-schema.org/draft-04/schema#"),
    ("$schema", .string "http://json-schema.org/draft-04/schema#"),
    ("description", .string "Core schema meta-schema"),
    ("definitions", node (sharedDefinitions ++
      naturals "positiveInteger" "positiveIntegerDefault0" ++
      [("stringArray", distinctList [("items", typed "string")])])),
    ("type", .string "object"), ("properties", node rulesFour),
    ("dependencies", node [("exclusiveMaximum", .array [.string "maximum"]),
      ("exclusiveMinimum", .array [.string "minimum"])]),
    ("default", node [])]

/-! ### The later versions -/

/-- The keywords that the later versions rule alike; `free` stands for a schema that allows
anything. -/
private def laterRules (free : Json) : List (String × Json) := sharedRules ++
  sizeRules "nonNegativeInteger" "nonNegativeIntegerDefault0" ++
  [("$id", formatted "uri-reference"), ("$schema", formatted "uri"),
    ("$ref", formatted "uri-reference"), ("default", free),
    ("examples", node [("type", .string "array"), ("items", free)]),
    ("multipleOf", node [("type", .string "number"), ("exclusiveMinimum", .integer 0)]),
    ("exclusiveMaximum", typed "number"), ("exclusiveMinimum", typed "number"),
    ("additionalItems", anySchema), ("additionalProperties", anySchema),
    ("items", orElse free [oneOfThese [anySchema, listOfSchemas]]), ("contains", anySchema),
    ("propertyNames", anySchema), ("const", free)]

private def rulesSix : List (String × Json) := laterRules (node []) ++
  [("patternProperties", node mapOfSchemas), ("enum", distinctList [])]

private def rulesSeven : List (String × Json) := laterRules (.bool true) ++
  [("$comment", typed "string"),
    ("readOnly", orElse (.bool false) [("type", .string "boolean")]),
    ("writeOnly", orElse (.bool false) [("type", .string "boolean")]),
    ("patternProperties",
      node (("propertyNames", node [("format", .string "regex")]) :: mapOfSchemas)),
    ("enum", node [("type", .string "array"), ("items", .bool true)]),
    ("contentMediaType", typed "string"), ("contentEncoding", typed "string"),
    ("if", anySchema), ("then", anySchema), ("else", anySchema)]

private def laterMetaschema (address : String) (free : Json) (rules : List (String × Json)) :
    Json := node
  [("$id", .string (address ++ "#")), ("$schema", .string (address ++ "#")),
    ("title", .string "Core schema meta-schema"),
    ("definitions", node (sharedDefinitions ++
      naturals "nonNegativeInteger" "nonNegativeIntegerDefault0" ++
      [("stringArray", node [("type", .string "array"), ("items", typed "string"),
        ("uniqueItems", .bool true), ("default", .array [])])])),
    ("type", .array [.string "object", .string "boolean"]), ("properties", node rules),
    ("default", free)]

/-- The schema of the schemas of a version. -/
def Draft.metaschema (d : Draft) : Json :=
  match d with
  | .four => metaschemaFour
  | .six => laterMetaschema d.address (node []) rulesSix
  | .seven => laterMetaschema d.address (.bool true) rulesSeven

end Attest.Schema
