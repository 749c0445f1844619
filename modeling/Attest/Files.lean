import Attest.Text.Case
import Attest.Text.Utf8

/-!
Files, and the paths that lead to them.

All files are in one tree. A place in it is given by the names that lead there from the root. A path
is cut at its slashes and followed from name to name (`FileTree.follow?`): a dot or an empty name
stays, two dots go up, any other name goes down; the root is above itself. Only directories can be
passed. A path that does not begin at the root goes on from the working directory.
-/

namespace Attest

/-! ### Paths -/

/-- A name in a directory: bytes, which need not be UTF-8. -/
abbrev FileName := List UInt8

/-- Names with slashes between them. -/
structure Path where
  bytes : List UInt8
deriving DecidableEq, Repr, Inhabited

namespace Path

def slash : UInt8 := 0x2F

def ofString (s : String) : Path := ⟨Text.Utf8.encodeString s⟩

/-- The path as it is shown, with replacement characters where it is not UTF-8. -/
def text (p : Path) : String := Text.Utf8.decodeLossy p.bytes

/-- Whether a path begins at the root. -/
def isAbsolute (p : Path) : Bool := p.bytes.head? == some slash

/-- A path seen from a directory. One that is absolute does not depend on it. -/
def join (dir p : Path) : Path :=
  if p.isAbsolute then p
  else if dir.bytes = [] ∨ dir.bytes.getLast? = some slash then ⟨dir.bytes ++ p.bytes⟩
  else ⟨dir.bytes ++ slash :: p.bytes⟩

def names (p : Path) : List FileName := Text.splitAt slash p.bytes

end Path

/-! ### Trees of files -/

/-- The names that lead to an entry from the root. -/
abbrev Place := List FileName

/-- The place that a name leads to. -/
def Place.next (place : Place) (name : FileName) : Place :=
  if name = [] ∨ name = [0x2E] then place
  else if name = [0x2E, 0x2E] then place.dropLast
  else place ++ [name]

/-- The place that a path leads to from the root, if the directories are there. -/
def Path.place (p : Path) : Place := p.names.foldl Place.next []

/-- A file with its bytes, or a directory with its entries. -/
inductive FileTree where
  | file (bytes : List UInt8)
  | directory (entries : List (FileName × FileTree))
deriving Inhabited

namespace FileTree

/-- What there is at a place. -/
def at? : FileTree → Place → Option FileTree
  | t, [] => some t
  | .file _, _ :: _ => none
  | .directory entries, name :: rest => (entries.lookup name).bind fun t => t.at? rest

/-- Follows a name from a place, which must be a directory. -/
def step? (t : FileTree) (place : Place) (name : FileName) : Option Place :=
  match t.at? place with
  | some (.directory _) =>
    if (t.at? (place.next name)).isSome then some (place.next name) else none
  | _ => none

/-- Follows names from a place, one after the other. -/
def follow? (t : FileTree) (place : Place) (names : List FileName) : Option Place :=
  names.foldlM t.step? place

mutual

/-- Puts a tree at a place; directories on the way are made as needed, and those that are there
stay. -/
def put (place : Place) (t : FileTree) : FileTree → FileTree
  | .file bytes =>
    match place with
    | [] => t
    | _ :: _ => .file bytes
  | .directory entries =>
    match place, t with
    | [], .file bytes => .file bytes
    | [], .directory more => .directory (entries ++ more)
    | name :: rest, t => .directory (putEntry name rest t entries)

/-- Puts a tree below the entry of that name. -/
def putEntry (name : FileName) (rest : Place) (t : FileTree) :
    List (FileName × FileTree) → List (FileName × FileTree)
  | [] => [(name, rest.foldr (fun n t => .directory [(n, t)]) t)]
  | (n, there) :: more =>
    if n = name then (n, put rest t there) :: more else (n, there) :: putEntry name rest t more

end

end FileTree

/-! ### Files -/

/-- All files there are, and the directory that paths go on from. -/
structure Files where
  tree : FileTree
  workingDirectory : Path
  /-- How many bytes a path may have. -/
  longestPath : Nat := 4095

namespace Files

/-- No files but the directories on the way to the working directory. -/
def empty (dir : String) : Files where
  tree := .put (Path.ofString dir).place (.directory []) (.directory [])
  workingDirectory := .ofString dir

/-- Puts an entry at a path. -/
def put (files : Files) (path : Path) (t : FileTree) : Files :=
  { files with tree := .put (files.workingDirectory.join path).place t files.tree }

/-- Whether there can be anything at a path: it is not empty, not too long, and there is no zero in
it. -/
def accepts (files : Files) (path : Path) : Bool :=
  !path.bytes.isEmpty && !path.bytes.contains 0 && path.bytes.length ≤ files.longestPath

/-- The place that a path leads to. -/
def place? (files : Files) (path : Path) : Option Place :=
  if files.accepts path then files.tree.follow? [] (files.workingDirectory.join path).names
  else none

/-- What there is at a path. -/
def entry? (files : Files) (path : Path) : Option FileTree :=
  (files.place? path).bind files.tree.at?

end Files

end Attest
