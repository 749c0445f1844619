import Mathlib.Logic.ExistsUnique
import Attest.Proofs.Config.Paths
import Attest.Proofs.Http.Charset
import Attest.Settings

/-!
Which configuration is loaded, and what comes of it.

A path that is asked for is the only candidate. Otherwise there are two names in the directory, and
the first one under which there is anything is taken (`Config.Chooses`). What is chosen decides
alone what comes of loading (`Config.Yields`): an entry that is no configuration is an error, and
nothing else is tried.
-/

namespace Attest

namespace Config

/-! ### What is chosen -/

/-- What there is to load. -/
inductive Choice where
  /-- A path that was asked for, and at which there is nothing. -/
  | missing (path : Path)
  | entry (path : Path) (t : FileTree)
  | nothing

/-- What is chosen in a directory. -/
inductive Chooses (files : Files) (dir : Path) : (custom : Option String) → Choice → Prop where
  | missing {path : String} (h : files.entry? (dir.join (.ofString path)) = none) :
      Chooses files dir (some path) (.missing (dir.join (.ofString path)))
  | custom {path : String} {t : FileTree} (h : files.entry? (dir.join (.ofString path)) = some t) :
      Chooses files dir (some path) (.entry (dir.join (.ofString path)) t)
  | first {t : FileTree} (h : files.entry? (dir.join (.ofString "hakiki.json")) = some t) :
      Chooses files dir none (.entry (dir.join (.ofString "hakiki.json")) t)
  | second {t : FileTree} (hfirst : files.entry? (dir.join (.ofString "hakiki.json")) = none)
      (h : files.entry? (dir.join (.ofString ".hakiki.json")) = some t) :
      Chooses files dir none (.entry (dir.join (.ofString ".hakiki.json")) t)
  | nothing (hfirst : files.entry? (dir.join (.ofString "hakiki.json")) = none)
      (h : files.entry? (dir.join (.ofString ".hakiki.json")) = none) :
      Chooses files dir none .nothing

section Chooses

variable {files : Files} {dir : Path} {custom : Option String} {choice choice' : Choice}

theorem exists_chooses (files : Files) (dir : Path) (custom : Option String) :
    ∃ choice, Chooses files dir custom choice := by
  cases custom with
  | some path =>
    cases h : files.entry? (dir.join (.ofString path)) with
    | none => exact ⟨_, .missing h⟩
    | some t => exact ⟨_, .custom h⟩
  | none =>
    cases hfirst : files.entry? (dir.join (.ofString "hakiki.json")) with
    | some t => exact ⟨_, .first hfirst⟩
    | none =>
      cases h : files.entry? (dir.join (.ofString ".hakiki.json")) with
      | some t => exact ⟨_, .second hfirst h⟩
      | none => exact ⟨_, .nothing hfirst h⟩

theorem Chooses.unique (h : Chooses files dir custom choice)
    (h' : Chooses files dir custom choice') : choice = choice' := by
  cases h with
  | missing hnone =>
    cases h' with
    | missing => rfl
    | custom hsome => cases hnone.symm.trans hsome
  | custom hsome =>
    cases h' with
    | missing hnone => cases hnone.symm.trans hsome
    | custom hsome' => rw [Option.some.inj (hsome.symm.trans hsome')]
  | first hsome =>
    cases h' with
    | first hsome' => rw [Option.some.inj (hsome.symm.trans hsome')]
    | second hnone | nothing hnone => cases hnone.symm.trans hsome
  | second hnone hsome =>
    cases h' with
    | first hsome' => cases hnone.symm.trans hsome'
    | second _ hsome' => rw [Option.some.inj (hsome.symm.trans hsome')]
    | nothing _ hnone' => cases hnone'.symm.trans hsome
  | nothing hfirst hnone =>
    cases h' with
    | first hsome => cases hfirst.symm.trans hsome
    | second _ hsome => cases hnone.symm.trans hsome
    | nothing => rfl

/-- The choice as it is found on the way. -/
def Choice.found : Choice → Except LoadError (Option (Path × FileTree))
  | .missing path => .error (.notFound path.text)
  | .entry path t => .ok (some (path, t))
  | .nothing => .ok none

theorem selected_of_chooses (h : Chooses files dir custom choice) :
    selected files dir custom = choice.found := by
  -- unfolding, since simplifying with the equations would look into the paths
  unfold selected
  cases h with
  | missing hnone => simp only [hnone, Choice.found]
  | custom hsome => simp only [hsome, Choice.found]
  | first hsome =>
    simp only [fileNames, List.findSome?_cons, hsome, Option.map_some, Choice.found]
  | second hnone hsome =>
    simp only [fileNames, List.findSome?_cons, hnone, hsome, Option.map_none, Option.map_some,
      Choice.found]
  | nothing hfirst hnone =>
    simp only [fileNames, List.findSome?_cons, List.findSome?_nil, hfirst, hnone, Option.map_none,
      Choice.found]

end Chooses

/-! ### What comes of it -/

/-- What the log has of a configuration that is read. -/
def loadRecord (path : Path) : Event :=
  .logged .info ("Loading configuration from: " ++ path.text)

/-- What loading a choice yields. -/
inductive Yields : Choice → List Event × Except LoadError Config → Prop where
  | missing (path : Path) : Yields (.missing path) ([], .error (.notFound path.text))
  | nothing : Yields .nothing ([], .ok {})
  | directory (path : Path) (entries : List (FileName × FileTree)) :
      Yields (.entry path (.directory entries)) ([], .error .isDirectory)
  | notUtf8 {path : Path} {bytes : List UInt8}
      (hbytes : ¬ ∃ text, Encoding.utf8.Spells bytes text) :
      Yields (.entry path (.file bytes)) ([], .error .notUtf8)
  | unreadable {path : Path} {text : String} {bytes : List UInt8} {e : ReadError}
      (hbytes : Encoding.utf8.Spells bytes text) (hread : read text = .error e) :
      Yields (.entry path (.file bytes)) ([loadRecord path], .error (.unreadable path.text e))
  | zeroPreview {path : Path} {text : String} {bytes : List UInt8} {c : Config}
      (hbytes : Encoding.utf8.Spells bytes text) (hread : read text = .ok c)
      (hzero : c.bodyPreview = 0) :
      Yields (.entry path (.file bytes)) ([loadRecord path], .error .zeroPreview)
  | config {path : Path} {text : String} {bytes : List UInt8} {c : Config}
      (hbytes : Encoding.utf8.Spells bytes text) (hread : read text = .ok c)
      (hpreview : 0 < c.bodyPreview) :
      Yields (.entry path (.file bytes)) ([loadRecord path], .ok c)

section Yields

variable {files : Files} {dir : Path} {custom : Option String} {choice : Choice}
  {out : List Event × Except LoadError Config}

theorem exists_yields : ∀ choice : Choice, ∃ out, Yields choice out
  | .missing path => ⟨_, .missing path⟩
  | .nothing => ⟨_, .nothing⟩
  | .entry path (.directory entries) => ⟨_, .directory path entries⟩
  | .entry path (.file bytes) => by
    by_cases hbytes : ∃ text, Encoding.utf8.Spells bytes text
    · obtain ⟨text, htext⟩ := hbytes
      cases hread : read text with
      | error e => exact ⟨_, .unreadable htext hread⟩
      | ok c =>
        cases Nat.eq_zero_or_pos c.bodyPreview with
        | inl hzero => exact ⟨_, .zeroPreview htext hread hzero⟩
        | inr hpreview => exact ⟨_, .config htext hread hpreview⟩
    · exact ⟨_, .notUtf8 hbytes⟩

theorem entryText_of_spells {text : String} {bytes : List UInt8}
    (h : Encoding.utf8.Spells bytes text) : entryText (.file bytes) = .ok text := by
  simp only [entryText, Text.Utf8.decode_eq_ok_iff.mpr h]

theorem entryText_of_not_spells {bytes : List UInt8}
    (h : ¬ ∃ text, Encoding.utf8.Spells bytes text) :
    entryText (.file bytes) = .error .notUtf8 := by
  cases hread : Text.Utf8.decode bytes with
  | ok text => exact absurd ⟨text, Text.Utf8.decode_eq_ok_iff.mp hread⟩ h
  | error e => simp only [entryText, hread]

/-- Loading goes by what is chosen, and by nothing else. -/
theorem load_eq (hchoice : Chooses files dir custom choice) (hout : Yields choice out) :
    load files dir custom = out := by
  simp only [load, selected_of_chooses hchoice]
  cases hout with
  | missing | nothing | directory => rfl
  | notUtf8 hbytes => simp only [Choice.found, entryText_of_not_spells hbytes]
  | unreadable hbytes hread =>
    simp only [Choice.found, entryText_of_spells hbytes, ofText, hread]
    rfl
  | zeroPreview hbytes hread hzero =>
    simp only [Choice.found, entryText_of_spells hbytes, ofText, hread, if_pos hzero]
    rfl
  | config hbytes hread hpreview =>
    simp only [Choice.found, entryText_of_spells hbytes, ofText, hread,
      if_neg (Nat.ne_of_gt hpreview)]
    rfl

theorem Yields.preview_pos {c : Config} (h : Yields choice out) (hc : out.2 = .ok c) :
    0 < c.bodyPreview := by
  cases h <;> cases hc
  case nothing => decide
  case config hpreview => exact hpreview

theorem load_preview_pos {c : Config} (h : (load files dir custom).2 = .ok c) :
    0 < c.bodyPreview := by
  obtain ⟨choice, hchoice⟩ := exists_chooses files dir custom
  obtain ⟨out, hout⟩ := exists_yields choice
  rw [load_eq hchoice hout] at h
  exact hout.preview_pos h

end Yields

end Config

/-- Responses under the settings of a directory quote something. -/
theorem Settings.ofDirectory_preview_pos {files : Files} {dir : Path} {e : Settings}
    (h : (ofDirectory files dir).2 = .ok e) (r : Response) : 0 < (e.adopt r).previewLimit := by
  simp only [ofDirectory] at h
  cases hload : (Config.load files dir none).2 with
  | error error => simp [hload, Except.map] at h
  | ok c =>
    obtain rfl : ofConfig c = e := by simpa [hload, Except.map] using h
    exact Config.load_preview_pos hload

namespace Config

/-- CORRECT. There is one choice in every directory: the path that is asked for, which is taken as
it is if it is absolute and goes on from the directory if not, or the first of the two names under
which there is something. What there is at a path is what its names lead to, from the root or, where
the path does not begin there, from the working directory. What loading yields is what `Yields` says
of the choice, so it is the same wherever the choice is the same. A configuration that is loaded
quotes something, and so do the responses under settings from a directory. -/
theorem load_goes_by_choice (files : Files) (dir : Path) (custom : Option String) :
    (∃! choice, Chooses files dir custom choice) ∧
    (∀ choice, Chooses files dir custom choice →
      ∀ out, Yields choice out ↔ load files dir custom = out) ∧
    (∀ files' dir' custom' choice, Chooses files dir custom choice →
      Chooses files' dir' custom' choice → load files' dir' custom' = load files dir custom) ∧
    (∀ path t, files.entry? path = some t ↔ files.Holds path t) ∧
    (∀ path : Path, path.isAbsolute = true → dir.join path = path) ∧
    (∀ path : Path, path.isAbsolute = false → (dir.join path).bytes =
      (if dir.bytes = [] ∨ dir.bytes.getLast? = some Path.slash then dir.bytes
        else dir.bytes ++ [Path.slash]) ++ path.bytes) ∧
    (∀ c, (load files dir custom).2 = .ok c → 0 < c.bodyPreview) ∧
    (∀ e, (Settings.ofDirectory files dir).2 = .ok e → ∀ r, 0 < (e.adopt r).previewLimit) := by
  obtain ⟨choice, hchoice⟩ := exists_chooses files dir custom
  refine ⟨⟨choice, hchoice, fun _ h => h.unique hchoice⟩, ?_, ?_,
    fun _ _ => Files.entry?_eq_some_iff, fun _ => Path.join_of_absolute,
    fun _ => Path.join_of_relative, fun _ => load_preview_pos,
    fun _ => Settings.ofDirectory_preview_pos⟩
  · intro choice' hchoice' out
    refine ⟨load_eq hchoice', ?_⟩
    rintro rfl
    obtain ⟨out, hout⟩ := exists_yields choice'
    rwa [load_eq hchoice' hout]
  · intro files' dir' custom' choice' hchoice' hother
    obtain ⟨out, hout⟩ := exists_yields choice'
    rw [load_eq hchoice' hout, load_eq hother hout]

/-- Files with a directory under the first name, and a text under the second. -/
def shadowed (text : String) : Files where
  tree := .directory [(Text.Utf8.encodeString "w", .directory
    [(Text.Utf8.encodeString "hakiki.json", .directory []),
      (Text.Utf8.encodeString ".hakiki.json", .file (Text.Utf8.encodeString text))])]
  workingDirectory := .ofString "/w"

/-- The directory is an error, whatever is behind it. What is behind it can be asked for, from
anywhere and by ways round, and without both there are the defaults. -/
theorem load_goes_by_choice_when_shadowed :
    let text := "\x7b\"bodyPreview\": 0\x7d"
    let files := shadowed text
    let here := Path.ofString "/w"
    let hidden := Path.ofString "/w/.hakiki.json"
    let roundabout := Path.ofString "../w//./.hakiki.json"
    let first := Choice.entry (.ofString "/w/hakiki.json") (.directory [])
    let second := Choice.entry hidden (.file (Text.Utf8.encodeString text))
    hidden.isAbsolute = true ∧ roundabout.isAbsolute = false ∧
      (Path.ofString "/v").join hidden = hidden ∧
      (here.join roundabout).bytes = here.bytes ++ [Path.slash] ++ roundabout.bytes ∧
      Chooses files here none first ∧ Chooses (shadowed "?") here none first ∧
      load files here none = ([], .error .isDirectory) ∧
      load (shadowed "?") here none = load files here none ∧
      files.Holds roundabout (.file (Text.Utf8.encodeString text)) ∧
      load files (.ofString ".") none = ([], .error .isDirectory) ∧
      Chooses files (.ofString "/v") (some "/w/.hakiki.json") second ∧
      load files (.ofString "/v") (some "/w/.hakiki.json") =
        ([loadRecord hidden], .error .zeroPreview) ∧
      (load (.empty "/w") here none).2 = .ok {} ∧ 0 < ({} : Config).bodyPreview ∧
      (Settings.ofDirectory (.empty "/w") here).2 = .ok (.ofConfig {}) ∧
      0 < ((Settings.ofConfig {}).adopt ⟨.ok, .empty, .unread none, 0⟩).previewLimit := by
  intro text files here hidden roundabout first second
  have hfirst (text : String) : Chooses (shadowed text) here none first := .first rfl
  have hsecond : Chooses files (.ofString "/v") (some "/w/.hakiki.json") second := .custom rfl
  have hdot : Chooses files (.ofString ".") none
      (.entry (.ofString "./hakiki.json") (.directory [])) := .first rfl
  have hread : read text = .ok { bodyPreview := 0 } := by
    have hsome : (read text).toOption = some { bodyPreview := 0 } := by decide +kernel
    cases h : read text with
    | error e => simp [h, Except.toOption] at hsome
    | ok c => simpa [h, Except.toOption] using hsome
  have hbytes : Encoding.utf8.Spells (Text.Utf8.encodeString text) text :=
    Text.Utf8.decode_eq_ok_iff.mp (Text.Utf8.decode_encodeString text)
  obtain ⟨-, hyields, hsame, hholds, -, hrelative, -, -⟩ := load_goes_by_choice files here none
  obtain ⟨-, hyields', -, -, habsolute, -, -, -⟩ :=
    load_goes_by_choice files (.ofString "/v") (some "/w/.hakiki.json")
  obtain ⟨-, hyields'', -, -, -, -, -, -⟩ := load_goes_by_choice files (.ofString ".") none
  obtain ⟨-, -, -, -, -, -, hpos, hadopted⟩ := load_goes_by_choice (.empty "/w") here none
  exact ⟨rfl, rfl, habsolute hidden rfl, hrelative roundabout rfl, hfirst text, hfirst "?",
    (hyields first (hfirst text) _).mp (.directory _ _),
    hsame (shadowed "?") here none first (hfirst text) (hfirst "?"), (hholds _ _).mp rfl,
    (hyields'' _ hdot _).mp (.directory _ _), hsecond,
    (hyields' second hsecond _).mp (.zeroPreview hbytes hread rfl), rfl, hpos _ rfl, rfl,
    hadopted _ rfl _⟩

end Config

end Attest
