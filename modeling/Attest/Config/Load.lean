import Attest.Config.Reader
import Attest.Files

/-!
Loading configurations from files.

A path that is asked for must exist. Otherwise the first of two names that exists in the directory
is taken, and when neither does, the defaults. Only the entry chosen is looked at: whatever is wrong
with it is an error.
-/

namespace Attest.Config

/-- Why no configuration could be loaded. -/
inductive LoadError where
  | notFound (path : String)
  | unreadable (path : String) (error : ReadError)
  | zeroPreview
  | isDirectory
  | notUtf8

namespace LoadError

def message : LoadError → String
  | .notFound path => "Configuration file not found: " ++ path
  | .unreadable path error => "Failed to parse configuration: " ++ path ++ ": " ++ error.message
  | .zeroPreview => "Configuration validation failed: bodyPreview must be greater than zero"
  | .isDirectory => "IO error: Is a directory (os error 21)"
  | .notUtf8 => "IO error: stream did not contain valid UTF-8"

end LoadError

/-- The names under which a directory can hold its configuration, in order of preference. -/
def fileNames : List String := ["hakiki.json", ".hakiki.json"]

/-- The entry to load, with its path: the one asked for, or the first there is of `fileNames`. -/
def selected (files : Files) (dir : Path) : (custom : Option String) →
    Except LoadError (Option (Path × FileTree))
  | some custom =>
    let path := dir.join (.ofString custom)
    match files.entry? path with
    | some entry => .ok (some (path, entry))
    | none => .error (.notFound path.text)
  | none => .ok <| fileNames.findSome? fun name =>
      let path := dir.join (.ofString name)
      (files.entry? path).map fun entry => (path, entry)

/-- The text of an entry. -/
def entryText : FileTree → Except LoadError String
  | .directory _ => .error .isDirectory
  | .file bytes =>
    match Text.Utf8.decode bytes with
    | .ok text => .ok text
    | .error _ => .error .notUtf8

/-- The configuration that the text at a path holds. A preview must show something. -/
def ofText (path : Path) (text : String) : Except LoadError Config :=
  match read text with
  | .error e => .error (.unreadable path.text e)
  | .ok c => if c.bodyPreview = 0 then .error .zeroPreview else .ok c

/-- Loads a configuration, and tells of the file that was read. -/
def load (files : Files) (dir : Path) (custom : Option String) :
    List Event × Except LoadError Config :=
  match selected files dir custom with
  | .error e => ([], .error e)
  | .ok none => ([], .ok {})
  | .ok (some (path, entry)) =>
    match entryText entry with
    | .error e => ([], .error e)
    | .ok text =>
      ([.logged .info ("Loading configuration from: " ++ path.text)], ofText path text)

end Attest.Config
