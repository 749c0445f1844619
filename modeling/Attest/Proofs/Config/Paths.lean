import Attest.Files

/-!
What paths lead to.

A path leads from the root through its names, and all that it passes are directories
(`FileTree.Leads`). There is at most one place that it leads to, and following it finds that place
(`FileTree.follow?_eq_some_iff`), so what there is at a path is what lies where it leads
(`Files.entry?_eq_some_iff`).
-/

namespace Attest

namespace Path

variable {dir path : Path}

/-- An absolute path is the same in every directory. -/
theorem join_of_absolute (h : path.isAbsolute = true) : dir.join path = path := if_pos h

/-- Any other path goes on from the directory, after a slash. -/
theorem join_of_relative (h : path.isAbsolute = false) :
    (dir.join path).bytes =
      (if dir.bytes = [] ∨ dir.bytes.getLast? = some slash then dir.bytes
        else dir.bytes ++ [slash]) ++ path.bytes := by
  rw [join, if_neg (by simp [h])]
  split
  · rfl
  · simp

end Path

namespace FileTree

variable {t : FileTree} {place : Place} {names : List FileName}

/-- Names lead from a place to another through directories. -/
inductive Leads (t : FileTree) : Place → List FileName → Place → Prop where
  | here {place : Place} (h : (t.at? place).isSome = true) : Leads t place [] place
  | on {place last : Place} {name : FileName} {rest : List FileName}
      {entries : List (FileName × FileTree)} (hdir : t.at? place = some (.directory entries))
      (h : Leads t (place.next name) rest last) : Leads t place (name :: rest) last

theorem Leads.start {last : Place} (h : Leads t place names last) :
    (t.at? place).isSome = true := by
  cases h with
  | here h => exact h
  | on hdir => rw [hdir]; rfl

/-- One name leads on if there is a directory, and something where it leads. -/
theorem step?_eq_some_iff {name : FileName} {last : Place} :
    t.step? place name = some last ↔
      (∃ entries, t.at? place = some (.directory entries)) ∧ place.next name = last ∧
        (t.at? last).isSome = true := by
  unfold step?
  split
  next entries hdir =>
    rw [Option.ite_none_right_eq_some]
    constructor
    · rintro ⟨hsome, ⟨⟩⟩
      exact ⟨⟨entries, hdir⟩, rfl, hsome⟩
    · rintro ⟨-, rfl, hsome⟩
      exact ⟨hsome, rfl⟩
  next hno =>
    simp only [reduceCtorEq, false_iff]
    rintro ⟨⟨entries, hdir⟩, -⟩
    exact hno entries hdir

/-- Following names ends where they lead. By induction on the names: the first one leads to the
place from which the others are followed. -/
theorem follow?_eq_some_iff {last : Place} : ∀ {names : List FileName} {place : Place},
    (t.at? place).isSome = true → (t.follow? place names = some last ↔ Leads t place names last)
  | [], place, hplace => by
    constructor
    · rintro ⟨⟩
      exact .here hplace
    · rintro ⟨⟩
      rfl
  | name :: rest, place, hplace => by
    rw [follow?, List.foldlM_cons]
    constructor
    · intro h
      obtain ⟨next, hstep, hrest⟩ := Option.bind_eq_some_iff.mp h
      obtain ⟨⟨entries, hdir⟩, rfl, hnext⟩ := step?_eq_some_iff.mp hstep
      exact .on hdir ((follow?_eq_some_iff hnext).mp hrest)
    · rintro (_ | ⟨hdir, hrest⟩)
      have hstep := step?_eq_some_iff.mpr ⟨⟨_, hdir⟩, rfl, hrest.start⟩
      exact Option.bind_eq_some_iff.mpr ⟨_, hstep, (follow?_eq_some_iff hrest.start).mpr hrest⟩

end FileTree

namespace Files

/-- What there is at a path: it can be one, and its names, which go on from the working directory
unless it is absolute, lead to the place of the entry. -/
structure Holds (files : Files) (path : Path) (t : FileTree) : Prop where
  nonempty : path.bytes ≠ []
  zero : 0 ∉ path.bytes
  length : path.bytes.length ≤ files.longestPath
  leads : ∃ place, files.tree.Leads [] (files.workingDirectory.join path).names place ∧
    files.tree.at? place = some t

variable {files : Files} {path : Path} {t : FileTree}

theorem accepts_iff : files.accepts path = true ↔
    path.bytes ≠ [] ∧ 0 ∉ path.bytes ∧ path.bytes.length ≤ files.longestPath := by
  simp [accepts, and_assoc]

theorem place?_eq_some_iff {place : Place} : files.place? path = some place ↔
    files.accepts path = true ∧
      files.tree.Leads [] (files.workingDirectory.join path).names place := by
  rw [place?, Option.ite_none_right_eq_some]
  exact and_congr_right fun _ => FileTree.follow?_eq_some_iff (by rw [FileTree.at?]; rfl)

/-- What is found at a path is what there is. -/
theorem entry?_eq_some_iff : files.entry? path = some t ↔ files.Holds path t := by
  unfold entry?
  rw [Option.bind_eq_some_iff]
  constructor
  · rintro ⟨place, hplace, hentry⟩
    obtain ⟨haccepts, hleads⟩ := place?_eq_some_iff.mp hplace
    obtain ⟨hnonempty, hzero, hlength⟩ := accepts_iff.mp haccepts
    exact ⟨hnonempty, hzero, hlength, place, hleads, hentry⟩
  · rintro ⟨hnonempty, hzero, hlength, place, hleads, hentry⟩
    have haccepts := accepts_iff.mpr ⟨hnonempty, hzero, hlength⟩
    exact ⟨place, place?_eq_some_iff.mpr ⟨haccepts, hleads⟩, hentry⟩

end Files

end Attest
