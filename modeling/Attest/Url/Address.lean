import Attest.Number.Power
import Attest.Text.Case
import Attest.Text.Hex

/-!
Addresses of hosts.

An IPv4 address is four numbers below 256 with dots between them. An IPv6 address is eight numbers
of up to four hexadecimal digits with colons between them; the last two may be written as an IPv4
address, and two colons stand for a row of zeros.
-/

namespace Attest.Url

/-- The number that digits write. -/
def decimal (digits : List Char) : Nat := digits.foldl (fun n c => n * 10 + (c.toNat - 48)) 0

def isDigits (cs : List Char) : Bool := !cs.isEmpty && cs.all Char.isDigit

/-- Reads a number below 256 that is written without zeros before it. -/
def octet? (cs : List Char) : Option Nat :=
  if isDigits cs ∧ cs.length ≤ 3 ∧ (cs.length = 1 ∨ cs.head? ≠ some '0') ∧ decimal cs < 256 then
    some (decimal cs)
  else none

/-- Reads an IPv4 address in its only spelling. -/
def ipv4? (cs : List Char) : Option (List Nat) :=
  let parts := Text.splitAt '.' cs
  if parts.length = 4 then parts.mapM octet? else none

/-- Reads up to four hexadecimal digits. -/
def hexGroup? (cs : List Char) : Option Nat :=
  if cs.isEmpty ∨ 4 < cs.length then none
  else cs.foldlM (fun n c => (Text.hexDigit? c).map (n * 16 + ·)) 0

/-- Reads numbers with colons between them. -/
def hexGroups? : List (List Char) → Option (List Nat)
  | [] => some []
  | [last] =>
    match hexGroup? last with
    | some n => some [n]
    | none => (ipv4? last).map fun
      | [a, b, c, d] => [a * 256 + b, c * 256 + d]
      | _ => []
  | group :: rest => do return (← hexGroup? group) :: (← hexGroups? rest)

/-- What stands before and after the first two colons in a row. -/
def splitAtGap : List Char → Option (List Char × List Char)
  | ':' :: ':' :: rest => some ([], rest)
  | c :: rest => (splitAtGap rest).map fun (before, after) => (c :: before, after)
  | [] => none

/-- Reads a side of two colons in a row, which may be empty. -/
def side? (cs : List Char) : Option (List Nat) :=
  if cs.isEmpty then some [] else hexGroups? (Text.splitAt ':' cs)

/-- Reads an IPv6 address. Two colons stand for at least so many zeros. -/
def ipv6? (leastGap : Nat) (cs : List Char) : Option (List Nat) :=
  match splitAtGap cs with
  | none => (hexGroups? (Text.splitAt ':' cs)).filter (·.length = 8)
  | some (before, after) => do
    let before ← if before.contains '.' then none else side? before
    let after ← side? after
    let count := before.length + after.length
    if count + leastGap ≤ 8 then return before ++ List.replicate (8 - count) 0 ++ after else none

/-- The text of an IPv4 address. -/
def ipv4Text (n : Nat) : String :=
  ".".intercalate ([n / pow2 24, n / pow2 16, n / pow2 8, n].map fun n => toString (n % 256))

/-- The length of the first of the longest rows of zeros, and what lies before it. -/
def longestZeros : List Nat → Nat × Nat
  | [] => (0, 0)
  | n :: rest =>
    let here := ((n :: rest).takeWhile (· = 0)).length
    let (best, before) := longestZeros rest
    if best ≤ here ∧ 0 < here then (here, 0) else (best, before + 1)

/-- The text of an IPv6 address: two colons stand for the longest row of zeros, if it has at least
two. -/
def ipv6Text (groups : List Nat) : String :=
  let join (groups : List Nat) : String := ":".intercalate (groups.map Text.hexText)
  let (count, before) := longestZeros groups
  if count < 2 then join groups
  else join (groups.take before) ++ "::" ++ join (groups.drop (before + count))

end Attest.Url
