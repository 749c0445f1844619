import Attest.Json.Basic
import Attest.Text.Quoted

/-!
JSON text of a value, and its description.

`Json.text` is the compact form: no blanks, members in the order of their names, the fewest escapes.
`Json.description` names the kind of every part and is what the description of an object shows.
-/

namespace Attest.Json

/-- How a character is written inside a JSON string. -/
def escapeChar (c : Char) : List Char :=
  if c = '"' then ['\\', '"']
  else if c = '\\' then ['\\', '\\']
  else if c = '\n' then ['\\', 'n']
  else if c = '\r' then ['\\', 'r']
  else if c = '\t' then ['\\', 't']
  else if c.toNat = 8 then ['\\', 'b']
  else if c.toNat = 12 then ['\\', 'f']
  else if c.toNat < 0x20 then ['\\', 'u', '0', '0', if c.toNat < 16 then '0' else '1',
    Nat.digitChar (c.toNat % 16)]
  else [c]

def stringChars (s : String) : List Char := '"' :: (s.toList.flatMap escapeChar ++ ['"'])

mutual

/-- The characters of the compact text. -/
def chars : Json → List Char
  | .null => "null".toList
  | .bool true => "true".toList
  | .bool false => "false".toList
  | .integer n => (toString n).toList
  | .double x => (Decimal.json.text x).toList
  | .string s => stringChars s
  | .array items => '[' :: itemChars items
  | .object members => '{' :: memberChars members

/-- The items that follow an opening bracket, and the closing one. -/
def itemChars : List Json → List Char
  | [] => [']']
  | [v] => chars v ++ [']']
  | v :: w :: rest => chars v ++ ',' :: itemChars (w :: rest)

def memberChars : List (String × Json) → List Char
  | [] => ['}']
  | [(k, v)] => stringChars k ++ ':' :: (chars v ++ ['}'])
  | (k, v) :: m :: rest => stringChars k ++ ':' :: (chars v ++ ',' :: memberChars (m :: rest))

end

/-- The compact text. -/
def text (v : Json) : String := String.ofList (chars v)

mutual

/-- The description: every part under the name of its kind. -/
def description : Json → String
  | .null => "Null"
  | .bool b => s!"Bool({b})"
  | .integer n => s!"Number({n})"
  | .double x => "Number(" ++ Decimal.json.text x ++ ")"
  | .string s => "String(" ++ Text.quote s ++ ")"
  | .array items => "Array [" ++ ", ".intercalate (describeItems items) ++ "]"
  | .object members => "Object \x7b" ++ ", ".intercalate (describeMembers members) ++ "\x7d"

def describeItems : List Json → List String
  | [] => []
  | v :: rest => description v :: describeItems rest

def describeMembers : List (String × Json) → List String
  | [] => []
  | (k, v) :: rest => (Text.quote k ++ ": " ++ description v) :: describeMembers rest

end

end Attest.Json
