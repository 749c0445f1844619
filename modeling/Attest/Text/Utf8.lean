/-!
UTF-8.

`encode` writes characters as bytes. `pieces` cuts any list of bytes into characters and malformed
stretches: a stretch is the longest beginning of a character that the next byte breaks off, or one
byte that begins no character. Strict decoding (`decode`) refuses at the first stretch and says
where it lies; lossy decoding (`decodeLossy`) puts the replacement character in place of each.
-/

namespace Attest.Text.Utf8

def encode (cs : List Char) : List UInt8 := cs.flatMap String.utf8EncodeChar

def encodeString (s : String) : List UInt8 := encode s.toList

/-- A character under way: the bits read so far, the bytes used and still to come, and the range
that the next byte must lie in. -/
structure Partial where
  code : Nat
  used : Nat
  left : Nat
  low : UInt8 := 0x80
  high : UInt8 := 0xBF

/-- What a byte between characters is. -/
inductive Lead where
  | single (c : Char)
  | multi (p : Partial)
  | malformed

/-- The second byte is confined where a wider range would admit a longer spelling than needed, a
surrogate or a code point past the last. -/
def lead (b : UInt8) : Lead :=
  if b < 0x80 then .single (Char.ofNat b.toNat)
  else if b < 0xC2 then .malformed
  else if b < 0xE0 then .multi { code := b.toNat - 0xC0, used := 1, left := 1 }
  else if b = 0xE0 then .multi { code := 0, used := 1, left := 2, low := 0xA0 }
  else if b = 0xED then .multi { code := 0xD, used := 1, left := 2, high := 0x9F }
  else if b < 0xF0 then .multi { code := b.toNat - 0xE0, used := 1, left := 2 }
  else if b = 0xF0 then .multi { code := 0, used := 1, left := 3, low := 0x90 }
  else if b < 0xF4 then .multi { code := b.toNat - 0xF0, used := 1, left := 3 }
  else if b = 0xF4 then .multi { code := 4, used := 1, left := 3, high := 0x8F }
  else .malformed

/-- A stretch of the bytes. -/
inductive Piece where
  /-- A character in its only spelling. -/
  | char (c : Char)
  /-- So many bytes that no character begins with together with what follows. -/
  | malformed (length : Nat)
  /-- The bytes end after so many bytes of a character. -/
  | truncated (length : Nat)
deriving DecidableEq, Repr

/-- Cuts the bytes that follow a character under way, if there is one. -/
def pieces : Option Partial → List UInt8 → List Piece
  | none, [] => []
  | some p, [] => [.truncated p.used]
  | none, b :: rest =>
    match lead b with
    | .single c => .char c :: pieces none rest
    | .multi p => pieces (some p) rest
    | .malformed => .malformed 1 :: pieces none rest
  | some p, b :: rest =>
    if p.low ≤ b ∧ b ≤ p.high then
      let code := p.code * 64 + b.toNat % 64
      if p.left = 1 then .char (Char.ofNat code) :: pieces none rest
      else pieces (some { code := code, used := p.used + 1, left := p.left - 1 }) rest
    else
      .malformed p.used ::
        match lead b with
        | .single c => .char c :: pieces none rest
        | .multi p => pieces (some p) rest
        | .malformed => .malformed 1 :: pieces none rest

/-- Why bytes are not UTF-8: where the first malformed stretch begins, and how long it is. -/
inductive Error where
  | malformed (length index : Nat)
  | truncated (index : Nat)
deriving DecidableEq, Repr

def Error.message : Error → String
  | .malformed length index => s!"invalid utf-8 sequence of {length} bytes from index {index}"
  | .truncated index => s!"incomplete utf-8 byte sequence from index {index}"

/-- The characters of the pieces, of which the first begins at `index`. -/
def collect : (index : Nat) → List Piece → Except Error (List Char)
  | _, [] => .ok []
  | index, .char c :: rest => (collect (index + c.utf8Size) rest).map (c :: ·)
  | index, .malformed n :: _ => .error (.malformed n index)
  | index, .truncated _ :: _ => .error (.truncated index)

/-- The text whose encoding the bytes are. -/
def decode (bytes : List UInt8) : Except Error String :=
  (collect 0 (pieces none bytes)).map String.ofList

def Piece.display : Piece → Char
  | .char c => c
  | .malformed _ => '\uFFFD'
  | .truncated _ => '\uFFFD'

/-- The text with a replacement character for each malformed stretch. -/
def decodeLossy (bytes : List UInt8) : String :=
  String.ofList ((pieces none bytes).map Piece.display)

end Attest.Text.Utf8
