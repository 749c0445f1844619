import Attest.Unicode.Printable

/-!
Quoted text.

Messages show text between double quotes on one line, so that its end and its unprintable characters
can be seen: line breaks, tabs, quotes and backslashes have two-character escapes, and every other
character that would not show as itself is written by its code point, `\u{200b}`.
-/

namespace Attest.Text

/-- How a character is written inside a quotation. -/
def escapeChar (c : Char) : List Char :=
  if c = '"' then ['\\', '"']
  else if c = '\\' then ['\\', '\\']
  else if c = '\n' then ['\\', 'n']
  else if c = '\r' then ['\\', 'r']
  else if c = '\t' then ['\\', 't']
  else if c.toNat = 0 then ['\\', '0']
  else if Unicode.isPrintable c then [c]
  else ['\\', 'u', '{'] ++ Nat.toDigits 16 c.toNat ++ ['}']

def escape (cs : List Char) : List Char := cs.flatMap escapeChar

/-- The text between double quotes, escaped. -/
def quote (s : String) : String := String.ofList ('"' :: (escape s.toList ++ ['"']))

/-- Bytes between double quotes: printable ASCII as it is, the rest by escapes or as `\xff`. -/
def quoteBytes (bytes : List UInt8) : String :=
  let shown (b : UInt8) : String :=
    if b = 0x22 then "\\\"" else if b = 0x5C then "\\\\"
    else if b = 0x0A then "\\n" else if b = 0x0D then "\\r" else if b = 0x09 then "\\t"
    else if b = 0 then "\\0"
    else if 0x20 ≤ b ∧ b < 0x7F then String.singleton (Char.ofNat b.toNat)
    else "\\x" ++ hexPadded 2 b.toNat
  "b\"" ++ String.join (bytes.map shown) ++ "\""

end Attest.Text
