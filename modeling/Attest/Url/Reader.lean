import Attest.Url.Host

/-!
Reading URLs.

A text without a scheme is read relative to a base. Blanks around the text are dropped, and tabs and
line ends within it. Some schemes are special: they need a host, and take backslashes for slashes.
-/

namespace Attest.Url

/-- The port that goes without saying. -/
def usualPort? : String → Option Nat
  | "http" => some 80
  | "ws" => some 80
  | "https" => some 443
  | "wss" => some 443
  | "ftp" => some 21
  | _ => none

def isSpecial (scheme : String) : Bool := scheme = "file" || (usualPort? scheme).isSome

/-- The characters that are read. -/
def significant (text : String) : List Char :=
  (Text.trimBy (· ≤ ' ') text.toList).filter fun c => !(['\t', '\n', '\r'].contains c)

def isSchemeChar (c : Char) : Bool := c.isAlphanum || c = '+' || c = '-' || c = '.'

/-- The scheme in lower case and what follows its colon. -/
def splitScheme? (cs : List Char) : Option (String × List Char) :=
  match cs, cs.dropWhile isSchemeChar with
  | first :: _, ':' :: rest =>
    if first.isAlpha then
      some (String.ofList ((cs.takeWhile isSchemeChar).map Char.toLower), rest)
    else none
  | _, _ => none

def isSlash (c : Char) : Bool := c = '/' || c = '\\'

/-- Whether the character ends an authority. -/
def endsAuthority (special : Bool) (c : Char) : Bool :=
  c = '/' || c = '?' || c = '#' || (special && c = '\\')

/-! ### Authorities -/

/-- What stands before and after the last `@`. -/
def splitUser : List Char → Option (List Char × List Char)
  | [] => none
  | c :: rest =>
    match splitUser rest with
    | some (user, host) => some (c :: user, host)
    | none => if c = '@' then some ([], rest) else none

/-- The text of a user name and a password. -/
def userText (cs : List Char) : String :=
  let name := encode inUser (cs.takeWhile (· ≠ ':'))
  let password := encode inUser ((cs.dropWhile (· ≠ ':')).drop 1)
  let both := if password.isEmpty then name else name ++ ":" ++ password
  if both.isEmpty then "" else both ++ "@"

/-- The host, and what follows it: a colon between brackets does not end it. -/
def splitHost : (isBracketed : Bool) → List Char → List Char × List Char
  | _, [] => ([], [])
  | isBracketed, c :: rest =>
    if c = ':' ∧ !isBracketed then ([], c :: rest)
    else
      let isBracketed := if c = '[' then true else if c = ']' then false else isBracketed
      let (host, after) := splitHost isBracketed rest
      (c :: host, after)

/-- The text of a port after its colon: nothing where it goes without saying. -/
def portText (scheme : String) (cs : List Char) : Except Fault String :=
  if !cs.all Char.isDigit ∨ 0xFFFF < decimal cs then .error .port
  else if cs.isEmpty ∨ usualPort? scheme = some (decimal cs) then .ok ""
  else .ok (":" ++ toString (decimal cs))

/-- Reads an authority; `isLast` tells that nothing follows it. -/
def readAuthority (scheme : String) (isLast : Bool) (cs : List Char) : Except Fault String := do
  let (user, hostPort) := (splitUser cs).getD ([], cs)
  if cs.head? = some '@' ∧ hostPort.isEmpty ∧ !isLast then throw .emptyHost
  let user := userText user
  let (host, after) := splitHost false hostPort
  if host.isEmpty ∧ (isSpecial scheme ∨ !after.isEmpty ∨ !user.isEmpty) then throw .emptyHost
  let host ← if isSpecial scheme then domainHost host else plainHost host
  return user ++ host ++ (← portText scheme (after.drop 1))

/-! ### Paths -/

def isDot (segment : String) : Bool := [".", "%2e"].contains segment.toLower

def isTwoDots (segment : String) : Bool :=
  ["..", "%2e.", ".%2e", "%2e%2e"].contains segment.toLower

/-- Goes from a path along segments. One dot stays, and two dots go back; at the end they leave an
empty segment. -/
def walk : (path : List String) → List String → List String
  | path, [] => path
  | path, [last] =>
    if isDot last then path ++ [""]
    else if isTwoDots last then path.dropLast ++ [""]
    else path ++ [last]
  | path, segment :: rest =>
    if isDot segment then walk path rest
    else if isTwoDots segment then walk path.dropLast rest
    else walk (path ++ [segment]) rest

/-- Drops empty segments before others. -/
def dropEmpty : List String → List String
  | "" :: segment :: rest => dropEmpty (segment :: rest)
  | path => path

/-- Goes from a path along the segments of a text. -/
def walkText (scheme : String) (path : List String) (cs : List Char) : List String :=
  let cs := if isSpecial scheme then cs.map fun c => if c = '\\' then '/' else c else cs
  let path := walk path ((Text.splitAt '/' cs).map (encode inPath))
  if scheme = "file" then dropEmpty path else path

/-! ### Whole URLs -/

/-- Adds the query and the fragment that follow the path. -/
def withTail (u : Url) (cs : List Char) : Url :=
  let query := cs.takeWhile (· ≠ '#')
  let fragment := (cs.dropWhile (· ≠ '#')).drop 1
  { u with
    query := if query.isEmpty then none
      else some (encode (inQuery (isSpecial u.scheme)) (query.drop 1))
    fragment := if cs.contains '#' then some (encode inFragment fragment) else none }

/-- Whether the character ends a path. -/
def endsPath (c : Char) : Bool := c = '?' || c = '#'

/-- Adds what follows the authority, walking from a path. -/
def withRest (u : Url) (path : List String) (cs : List Char) : Url :=
  let names := walkText u.scheme path (cs.takeWhile (!endsPath ·))
  { u with path := .segments names }.withTail (cs.dropWhile (!endsPath ·))

/-- Adds the path after an authority: it begins with a slash, or is empty. -/
def withWholePath (u : Url) (cs : List Char) : Url :=
  match cs with
  | c :: rest =>
    if isSlash c then u.withRest [] rest
    else if isSpecial u.scheme then u.withRest [] cs
    else { u with path := .segments [] }.withTail cs
  | [] => { u with path := .segments (if isSpecial u.scheme then [""] else []) }

/-- Reads what follows two slashes. -/
def readAfterSlashes (scheme : String) (cs : List Char) : Except Fault Url := do
  let ends := endsAuthority (isSpecial scheme)
  let rest := cs.dropWhile (!ends ·)
  let authority ← readAuthority scheme rest.isEmpty (cs.takeWhile (!ends ·))
  return withWholePath { scheme, authority := some authority, path := .segments [] } rest

/-- Reads what follows the two slashes of a file: its host may be left out. -/
def readFileAfterSlashes (cs : List Char) : Except Fault Url := do
  let ends := endsAuthority true
  let host := cs.takeWhile (!ends ·)
  let host ← if host.isEmpty then pure "" else domainHost host
  let host := if host = "localhost" then "" else host
  return withWholePath { scheme := "file", authority := some host, path := .segments [] }
    (cs.dropWhile (!ends ·))

/-- Reads a reference that begins with neither a scheme nor, after it, two slashes. -/
def readRelative (base : Url) (names : List String) (cs : List Char) : Except Fault Url :=
  match cs with
  | [] => .ok base.withoutFragment
  | '#' :: _ => .ok (withTail base.withoutFragment cs |> fun u => { u with query := base.query })
  | '?' :: _ => .ok (base.withTail cs)
  | c :: rest =>
    if !isSlash c then .ok (base.withRest names.dropLast cs)
    else
      match rest with
      | d :: after =>
        if !isSlash d then .ok (base.withRest [] rest)
        else if base.scheme = "file" then readFileAfterSlashes after
        else if c = '/' ∧ d = '/' then readAfterSlashes base.scheme after
        else readAfterSlashes base.scheme (rest.dropWhile isSlash)
      | [] => .ok (base.withRest [] rest)

/-- Reads what follows a scheme that is not special. -/
def readPlain (scheme : String) (cs : List Char) : Except Fault Url :=
  match cs with
  | '/' :: '/' :: rest => readAfterSlashes scheme rest
  | '/' :: rest => .ok (withRest { scheme, authority := none, path := .segments [] } [] rest)
  | _ =>
    let path := encode isControl (cs.takeWhile (!endsPath ·))
    .ok (withTail { scheme, authority := none, path := .flat path } (cs.dropWhile (!endsPath ·)))

/-- Reads a file without a host of its own, relative to a base that is a file too, if there is one.
-/
def readFile (base : Option Url) (cs : List Char) : Except Fault Url :=
  let root : Url := { scheme := "file", authority := some "", path := .segments [""] }
  match base with
  | some base =>
    match base.path with
    | .segments names => readRelative base names cs
    | .flat _ => readRelative root [""] cs
  | none => readRelative root [""] cs

/-- Reads a URL, relative to a base where it has no scheme. -/
def read (base : Option Url) (text : String) : Except Fault Url :=
  let cs := significant text
  match splitScheme? cs with
  | some ("file", rest) => readFile (base.filter (·.scheme = "file")) rest
  | some (scheme, rest) =>
    if isSpecial scheme then
      let slashes := rest.takeWhile isSlash
      match base with
      | some base =>
        match base.path with
        | .segments names =>
          if base.scheme = scheme ∧ slashes.length < 2 then readRelative base names rest
          else readAfterSlashes scheme (rest.dropWhile isSlash)
        | .flat _ => readAfterSlashes scheme (rest.dropWhile isSlash)
      | none => readAfterSlashes scheme (rest.dropWhile isSlash)
    else readPlain scheme rest
  | none =>
    match base with
    | none => .error .noBase
    | some base =>
      match base.path, cs with
      | .segments names, _ => readRelative base names cs
      | .flat _, '#' :: _ => readRelative base [] cs
      | .flat _, _ => .error .flatBase

end Attest.Url
