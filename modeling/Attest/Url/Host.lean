import Attest.Unicode.CaseMap
import Attest.Url.Address
import Attest.Url.Basic
import Attest.Url.Punycode

/-!
The host of a URL: the name of a domain, an address, or, where the scheme gives it no meaning, any
text.
-/

namespace Attest.Url

/-- What may not stand in a host. -/
def isForbidden (c : Char) : Bool :=
  ['\x00', '\t', '\n', '\r', ' ', '#', '/', ':', '<', '>', '?', '@', '[', '\\', ']', '^',
    '|'].contains c

/-- Reads an address in brackets; the first has been taken. -/
def bracketed (cs : List Char) : Except Fault String :=
  if cs.getLast? = some ']' then
    match ipv6? 0 cs.dropLast with
    | some groups => .ok ("[" ++ ipv6Text groups ++ "]")
    | none => .error .ipv6
  else .error .ipv6

/-- The host of a scheme that gives it no meaning. -/
def plainHost (cs : List Char) : Except Fault String :=
  match cs with
  | '[' :: rest => bracketed rest
  | _ => if cs.any isForbidden then .error .hostCharacter else .ok (encode isControl cs)

/-! ### Numbers in place of names -/

/-- Reads digits to a base. -/
def based? (base : Nat) (cs : List Char) : Option Nat :=
  cs.foldlM (fun n c => ((Text.hexDigit? c).filter (· < base)).map (n * base + ·)) 0

/-- Reads a part of an address: `0x` begins hexadecimal digits, and `0` octal ones. -/
def ipv4Part? : List Char → Option Nat
  | [] => none
  | '0' :: 'x' :: rest => based? 16 rest
  | '0' :: 'X' :: rest => based? 16 rest
  | '0' :: c :: rest => based? 8 (c :: rest)
  | cs => based? 10 cs

/-- The parts of a name, without the empty one after a dot at its end. -/
def labels (cs : List Char) : List (List Char) :=
  let parts := Text.splitAt '.' cs
  if parts.getLast? = some [] then parts.dropLast else parts

/-- A name whose last part is a number is an address. -/
def isNumeric (cs : List Char) : Bool :=
  match (labels cs).getLast? with
  | some last => isDigits last || (ipv4Part? last).isSome
  | none => false

/-- The address of up to four numbers; the last one fills what the others leave. -/
def ipv4Number? (parts : List (List Char)) : Option Nat := do
  let numbers ← parts.mapM ipv4Part?
  let last ← numbers.getLast?
  let others := numbers.dropLast
  if 3 < others.length ∨ others.any (255 < ·) ∨ pow2 (8 * (4 - others.length)) ≤ last then none
  else
    let places := others.zip [pow2 24, pow2 16, pow2 8]
    return places.foldl (fun sum (n, place) => sum + n * place) last

/-! ### Names of domains -/

/-- A part of a name in ASCII. -/
def asciiLabel (cs : List Char) : List Char :=
  if cs.all (·.toNat < 0x80) then cs else "xn--".toList ++ Punycode.encode cs

/-- The characters that count as the dot between parts. -/
def asDot (c : Char) : Char :=
  if ['\u3002', '\uff0e', '\uff61'].contains c then '.' else c

/-- The name in lower case and in ASCII. -/
def asciiDomain (cs : List Char) : List Char :=
  let lower := Unicode.toLower (String.ofList (cs.map asDot))
  ['.'].intercalate ((Text.splitAt '.' lower.toList).map asciiLabel)

/-- The host of a scheme that looks it up. -/
def domainHost (cs : List Char) : Except Fault String :=
  match cs with
  | '[' :: rest => bracketed rest
  | _ =>
    match Text.Utf8.decode (decodeBytes cs) with
    | .error _ => .error .domainName
    | .ok name =>
      let name := asciiDomain name.toList
      if name.any fun c => isForbidden c || isControl c || c = '%' then .error .domainName
      else if name.isEmpty then .error .emptyHost
      else if isNumeric name then
        match ipv4Number? (labels name) with
        | some n => .ok (ipv4Text n)
        | none => .error .ipv4
      else .ok (String.ofList name)

end Attest.Url
