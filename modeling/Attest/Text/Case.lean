/-!
Letter case within ASCII, trimming of character lists, and splitting of lists.
-/

namespace Attest.Text

/-- Lower case of the letters A to Z; every other character stays. -/
def asciiLower (cs : List Char) : List Char := cs.map Char.toLower

/-- Equality that takes no account of the case of the letters A to Z. -/
def sameIgnoringCase (s t : String) : Bool := asciiLower s.toList == asciiLower t.toList

/-- Removes the characters of a class from both ends. -/
def trimBy (p : Char → Bool) (cs : List Char) : List Char :=
  ((cs.dropWhile p).reverse.dropWhile p).reverse

/-- The stretches between the separators: always one more than there are separators. -/
def splitAt {α : Type} [DecidableEq α] (sep : α) : List α → List (List α)
  | [] => [[]]
  | a :: rest =>
    if a = sep then [] :: splitAt sep rest
    else
      match splitAt sep rest with
      | [] => [[a]]
      | first :: more => (a :: first) :: more

/-- Whether `needle` begins at some place of the list. -/
def containsList {α : Type} [BEq α] (needle : List α) : List α → Bool
  | [] => needle.isEmpty
  | a :: rest => needle.isPrefixOf (a :: rest) || containsList needle rest

end Attest.Text
