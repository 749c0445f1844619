import Attest.Unicode.CodeSet

/-!
White space.

`whiteSpace` holds the characters that trimming removes and that a pattern in verbose mode may be
laid out with: the property of that name in the Unicode Standard (version 16.0, and alike in 17.0).
-/

namespace Attest.Unicode

def whiteSpace : CodeSet := ⟨
  [(0x9, 0xD), (0x20, 0x20), (0x85, 0x85), (0xA0, 0xA0), (0x1680, 0x1680), (0x2000, 0x200A),
  (0x2028, 0x2029), (0x202F, 0x202F), (0x205F, 0x205F), (0x3000, 0x3000)]⟩

def isWhiteSpace (c : Char) : Bool := whiteSpace.contains c

end Attest.Unicode
