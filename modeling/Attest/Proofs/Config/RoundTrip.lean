import Attest.Proofs.Config.Selection
import Attest.Proofs.Json.Skipped

/-!
Configurations, written and loaded again.

The members of a configuration can be written in any order, among members with other names and any
values, and any of them can be left out. What is loaded then has the values of the members that are
there, and the defaults of the others (`Config.load_written`). With all members there, it is the
configuration that was written.
-/

namespace Attest.Config

/-! ### Members -/

/-- The value of a member. -/
def member (c : Config) : Field → Json
  | .reporter => .string c.reporter.word
  | .color => .string c.color.word
  | .timestamps => .bool c.timestamps
  | .bodyPreview => .integer c.bodyPreview

/-- The configuration with the values that `c` has in these fields, and the defaults in the
others. -/
def part (c : Config) (fs : List Field) : Config where
  reporter := if .reporter ∈ fs then c.reporter else ({} : Config).reporter
  color := if .color ∈ fs then c.color else ({} : Config).color
  timestamps := if .timestamps ∈ fs then c.timestamps else ({} : Config).timestamps
  bodyPreview := if .bodyPreview ∈ fs then c.bodyPreview else ({} : Config).bodyPreview

/-- The fields that members are for, in their order. -/
def present (ms : List (String × Json)) : List Field := ms.filterMap fun m => Field.ofName? m.1

/-- A member of `c`, or one with another name and any value that has a text. -/
def Allows (c : Config) (m : String × Json) : Prop :=
  match Field.ofName? m.1 with
  | some f => m.2 = c.member f
  | none => m.2.Finite

/-- The members are members of `c`, each at most once, and others with other names. -/
structure Writes (c : Config) (ms : List (String × Json)) : Prop where
  allowed : ∀ m ∈ ms, c.Allows m
  once : (present ms).Nodup

@[simp] theorem Field.ofName?_name (f : Field) : Field.ofName? f.name = some f := by
  cases f <;> rfl

theorem Field.ofName?_eq_some_iff {name : String} {f : Field} :
    Field.ofName? name = some f ↔ name = f.name := by
  constructor
  · intro h
    rw [ofName?] at h
    simpa [eq_comm] using List.find?_some h
  · rintro rfl
    exact ofName?_name f

section Part

variable {c : Config} {fs : List Field}

theorem part_nil (c : Config) : c.part [] = {} := by simp [part]

theorem part_of_all (h : ∀ f, f ∈ fs) : c.part fs = c := by simp [part, h]

theorem part_reverse (c : Config) (fs : List Field) : c.part fs.reverse = c.part fs := by
  simp [part]

theorem part_member (c : Config) (fs : List Field) (f : Field) :
    (c.part fs).member f = if f ∈ fs then c.member f else ({} : Config).member f := by
  cases f <;> simp only [part, member] <;> split <;> rfl

theorem part_preview_pos (h : 1 ≤ c.bodyPreview) : 0 < (c.part fs).bodyPreview := by
  simp only [part]
  split
  · exact h
  · decide

end Part

/-! ### Values -/

variable {c : Config} {s rest : List Char}

open Json (chars stringChars Closes)

/-- What is read as a value is picked. -/
theorem scanScalar_of_scan {α : Type} {wanted : Wanted} {pick : Json → Except Cause α} {v : Json}
    {a : α} {b : Char} (hblank : Json.isBlank b = false) (harray : b ≠ '[') (hobject : b ≠ '{')
    (hscan : Json.scanValue 1 0 (b :: s) = .ok (v, rest)) (hpick : pick v = .ok a) :
    scanScalar wanted pick (b :: s) = .ok (a, rest) := by
  rw [scanScalar, Json.skipBlanks_cons hblank]
  split
  next h => exact absurd (List.cons.inj h).1 harray
  next h => exact absurd (List.cons.inj h).1 hobject
  next => simp only [hscan, within, hpick, bind, Except.bind]

/-- A choice is read back from its word. -/
theorem scanChoice_word {α : Type} {choices : List α} {word : α → String} {a : α}
    (ha : choices.find? (fun b => word b = word a) = some a) (rest : List Char) :
    scanChoice choices word (chars (.string (word a)) ++ rest) = .ok (a, rest) := by
  have hchars : chars (.string (word a)) ++ rest =
      '"' :: ((word a).toList.flatMap Json.escapeChar ++ '"' :: rest) := by
    simp [chars, stringChars]
  have hscan : Json.scanValue 1 0 (chars (.string (word a)) ++ rest) =
      .ok (.string (word a), rest) := by
    rw [hchars, Json.scanValue, Json.skipBlanks_cons rfl]
    simp only [Json.scanString_stringChars, bind, Except.bind]
  rw [hchars] at hscan ⊢
  rw [scanChoice, Json.skipBlanks_cons rfl]
  exact scanScalar_of_scan rfl (by decide) (by decide) hscan (by simp only [pickWord, ha])

theorem scanFlag (b : Bool) (rest : List Char) :
    scanScalar .flag pickFlag (chars (.bool b) ++ rest) = .ok (b, rest) := by
  cases b <;> exact scanScalar_of_scan rfl (by decide) (by decide) rfl rfl

theorem scanCount {n : Nat} (hn : n < pow2 64) (hr : Closes rest) :
    scanScalar .count pickCount (chars (.integer n) ++ rest) = .ok (n, rest) := by
  have hscan : Json.scanValue 1 0 (chars (.integer n) ++ rest) = .ok (.integer n, rest) := by
    refine Json.scanValue_integer ?_ ?_ hr
    · simp only [Json.leastInteger]
      omega
    · simp only [Json.greatestInteger]
      omega
  obtain ⟨b, s, hs, hb⟩ := Json.toDigits_head n
  have hchars : chars (.integer n) = b :: s := by
    rw [Json.chars_integer, if_pos (by omega), Int.toNat_natCast, hs]
  rw [hchars] at hscan ⊢
  refine scanScalar_of_scan (Json.begins_digit hb).1 ?_ ?_ hscan (by simp [pickCount])
  · rintro rfl
    cases hb
  · rintro rfl
    cases hb

/-- The value of a member is read into the part that is there. -/
theorem scanField_part (hc : c.bodyPreview < pow2 64) (fs : List Field) (f : Field)
    (hr : Closes rest) :
    scanField (c.part fs) f (chars (c.member f) ++ rest) = .ok (c.part (f :: fs), rest) := by
  cases f with
  | reporter =>
    have hfind : ReporterKind.all.find? (fun b => b.word = c.reporter.word) = some c.reporter := by
      cases c.reporter <;> rfl
    simp only [scanField, member, scanChoice_word hfind, bind, Except.bind]
    simp [part]
  | color =>
    have hfind : ColorChoice.all.find? (fun b => b.word = c.color.word) = some c.color := by
      cases c.color <;> rfl
    simp only [scanField, member, scanChoice_word hfind, bind, Except.bind]
    simp [part]
  | timestamps =>
    simp only [scanField, member, scanFlag, bind, Except.bind]
    simp [part]
  | bodyPreview =>
    simp only [scanField, member, scanCount hc hr, bind, Except.bind]
    simp [part]

/-! ### Members in a row -/

section Rows

variable {fuel : Nat} {fs : List Field} {k : String} {v : Json} {t : List Char}

theorem scanMember_own {f : Field} (hc : c.bodyPreview < pow2 64) (hf : f ∉ fs)
    (hr : Closes t) :
    scanMember (fuel + 1) fs (c.part fs)
        (f.name.toList.flatMap Json.escapeChar ++ '"' :: ':' :: (chars (c.member f) ++ t)) =
      scanMembers fuel false (f :: fs) (c.part (f :: fs)) t := by
  have hcolon : scanColon (':' :: (chars (c.member f) ++ t)) = .ok (chars (c.member f) ++ t) := rfl
  simp [scanMember, Json.scanString_stringChars, within, hf, hcolon, scanField_part hc fs f hr,
    bind, Except.bind]

theorem scanMember_other {d : Config} (hk : Field.ofName? k = none) (hv : v.Finite)
    (hr : Closes t) :
    scanMember (fuel + 1) fs d (k.toList.flatMap Json.escapeChar ++ '"' :: ':' :: (chars v ++ t)) =
      scanMembers fuel false fs d t := by
  have hcolon : scanColon (':' :: (chars v ++ t)) = .ok (chars v ++ t) := rfl
  simp [scanMember, Json.scanString_stringChars, within, hk, hcolon,
    Json.skipValue_chars hv hr, bind, Except.bind]

/-- A member is read, and then the members after it. -/
theorem scanMember_written {ms : List (String × Json)} (hc : c.bodyPreview < pow2 64)
    (hm : c.Allows (k, v)) (honce : (present ((k, v) :: ms) ++ fs).Nodup) (hr : Closes t)
    (htail : ∀ gs, (present ms ++ gs).Nodup →
      scanMembers fuel false gs (c.part gs) t = .ok (c.part ((present ms).reverse ++ gs), rest)) :
    scanMember (fuel + 1) fs (c.part fs)
        (k.toList.flatMap Json.escapeChar ++ '"' :: ':' :: (chars v ++ t)) =
      .ok (c.part ((present ((k, v) :: ms)).reverse ++ fs), rest) := by
  cases hk : Field.ofName? k with
  | none =>
    have hpresent : present ((k, v) :: ms) = present ms := by simp [present, hk]
    simp only [Allows, hk] at hm
    rw [hpresent] at honce ⊢
    rw [scanMember_other hk hm hr, htail fs honce]
  | some f =>
    have hpresent : present ((k, v) :: ms) = f :: present ms := by simp [present, hk]
    simp only [Allows, hk] at hm
    subst hm
    obtain rfl := Field.ofName?_eq_some_iff.mp hk
    rw [hpresent] at honce ⊢
    have hnodup : (present ms ++ f :: fs).Nodup := List.nodup_middle.mpr honce
    have hf : f ∉ fs := fun hmem =>
      (List.nodup_cons.mp honce).1 (List.mem_append_right _ hmem)
    rw [scanMember_own hc hf hr, htail (f :: fs) hnodup, List.reverse_cons, List.append_assoc,
      List.singleton_append]

/-- The configuration reached is at each member the part of `c` whose fields have been seen. -/
theorem scanMembers_tail (hc : c.bodyPreview < pow2 64) : ∀ (ms : List (String × Json))
    {fuel : Nat} {fs : List Field}, (∀ m ∈ ms, c.Allows m) → (present ms ++ fs).Nodup →
    (Json.memberTail ms).length ≤ fuel + 1 →
    scanMembers (fuel + 1) false fs (c.part fs) (Json.memberTail ms ++ rest) =
      .ok (c.part ((present ms).reverse ++ fs), rest)
  | [], _, _, _, _, _ => rfl
  | (k, v) :: ms, fuel, fs, hm, honce, hf => by
    have htail := Json.memberTail_length_pos ms
    simp only [Json.memberTail, stringChars, List.length_cons, List.length_append] at hf
    obtain ⟨fuel, rfl⟩ : ∃ f, fuel = f + 2 := ⟨fuel - 2, by omega⟩
    obtain ⟨hv, hms⟩ := List.forall_mem_cons.mp hm
    have hchars : Json.memberTail ((k, v) :: ms) ++ rest =
        ',' :: '"' :: (k.toList.flatMap Json.escapeChar ++ '"' :: ':' ::
          (chars v ++ (Json.memberTail ms ++ rest))) := by
      simp [Json.memberTail, stringChars]
    rw [hchars]
    exact scanMember_written hc hv honce (Json.closes_memberTail ms rest) fun gs hgs =>
      scanMembers_tail hc ms hms hgs (by omega)

/-- All members of an object are read, those of the configuration into it. -/
theorem scanMembers_written {ms : List (String × Json)} (hc : c.bodyPreview < pow2 64)
    (h : c.Writes ms) (hf : (Json.memberChars ms).length ≤ fuel) :
    scanMembers fuel true [] {} (Json.memberChars ms ++ rest) =
      .ok (c.part (present ms), rest) := by
  have hpart : c.part (present ms) = c.part ((present ms).reverse ++ []) := by
    rw [List.append_nil, part_reverse]
  rw [hpart, ← part_nil c]
  match ms, h with
  | [], _ =>
    obtain ⟨fuel, rfl⟩ : ∃ f, fuel = f + 1 := ⟨fuel - 1, by simp [Json.memberChars] at hf; omega⟩
    rfl
  | (k, v) :: ms, ⟨hm, honce⟩ =>
    have htail := Json.memberTail_length_pos ms
    simp only [Json.memberChars_cons, stringChars, List.length_cons, List.length_append] at hf
    obtain ⟨fuel, rfl⟩ : ∃ f, fuel = f + 3 := ⟨fuel - 3, by omega⟩
    obtain ⟨hv, hms⟩ := List.forall_mem_cons.mp hm
    have hchars : Json.memberChars ((k, v) :: ms) ++ rest =
        '"' :: (k.toList.flatMap Json.escapeChar ++ '"' :: ':' ::
          (chars v ++ (Json.memberTail ms ++ rest))) := by
      simp [Json.memberChars_cons, stringChars]
    rw [hchars]
    exact scanMember_written hc hv (by simpa using honce) (Json.closes_memberTail ms rest)
      fun gs hgs => scanMembers_tail hc ms hms hgs (by omega)

end Rows

/-! ### Documents -/

theorem read_written {ms : List (String × Json)} (hc : c.bodyPreview < pow2 64)
    (h : c.Writes ms) : read (Json.object ms).text = .ok (c.part (present ms)) := by
  have hscan : scanDocument (Json.object ms).text.toList = .ok (c.part (present ms)) := by
    have hmembers : scanMembers (2 * (Json.memberChars ms).length + 2) true [] {}
        (Json.memberChars ms ++ []) = .ok (c.part (present ms), []) :=
      scanMembers_written hc h (by omega)
    rw [List.append_nil] at hmembers
    rw [Json.text, String.toList_ofList, scanDocument, scanConfig, chars,
      Json.skipBlanks_cons rfl]
    simp only [hmembers, bind, Except.bind]
    rfl
  rw [read, hscan]

/-- All members of a configuration, in the order in which they are written. -/
def members (c : Config) : List (String × Json) := Field.all.map fun f => (f.name, c.member f)

theorem Field.mem_all (f : Field) : f ∈ all := by cases f <;> decide

theorem present_members (c : Config) : present c.members = Field.all := by
  simp [present, members, Field.all]

theorem allows_member (c : Config) (f : Field) : c.Allows (f.name, c.member f) := by
  simp only [Allows, Field.ofName?_name]

theorem writes_members (c : Config) : c.Writes c.members := by
  refine ⟨?_, by rw [present_members]; decide⟩
  intro m hm
  obtain ⟨f, -, rfl⟩ := List.mem_map.mp hm
  exact c.allows_member f

/-- The text of a member. -/
theorem fieldText_eq (c : Config) (f : Field) :
    ("\"" ++ f.name ++ "\":" ++ c.fieldText f).toList =
      stringChars f.name ++ ':' :: chars (c.member f) := by
  have hname : ("\"" ++ f.name ++ "\":").toList = stringChars f.name ++ [':'] := by
    cases f <;> rfl
  have hvalue : (c.fieldText f).toList = chars (c.member f) := by
    cases f with
    | reporter => simp only [fieldText, member]; cases c.reporter <;> rfl
    | color => simp only [fieldText, member]; cases c.color <;> rfl
    | timestamps => simp only [fieldText, member]; cases c.timestamps <;> rfl
    | bodyPreview => simp [fieldText, member, Json.chars_integer, Nat.toString_eq_repr]
  rw [String.toList_append, hname, hvalue, List.append_assoc, List.singleton_append]

/-- The text of a configuration is that of the object of all its members. -/
theorem text_eq (c : Config) : c.text = (Json.object c.members).text := by
  have hfield (f : Field) : ((fun f : Field => "\"" ++ f.name ++ "\":" ++ c.fieldText f) f).toList =
      stringChars f.name ++ ':' :: chars (c.member f) := c.fieldText_eq f
  rw [text]
  generalize (fun f : Field => "\"" ++ f.name ++ "\":" ++ c.fieldText f) = field at hfield ⊢
  refine String.toList_inj.mp ?_
  simp [Json.text, chars, members, Field.all, Json.memberChars, hfield]

/-! ### Loading -/

/-- A file with the text is loaded as the configuration, in whatever directory it is the first
choice. -/
def LoadsAs (text : String) (d : Config) : Prop :=
  ∀ (files : Files) (dir : Path),
    files.entry? (dir.join (.ofString "hakiki.json")) =
      some (.file (Text.Utf8.encodeString text)) →
    load files dir none = ([loadRecord (dir.join (.ofString "hakiki.json"))], .ok d)

theorem loadsAs_of_read {text : String} {d : Config} (hread : read text = .ok d)
    (hpreview : 0 < d.bodyPreview) : LoadsAs text d := by
  intro files dir hfile
  have hbytes : Encoding.utf8.Spells (Text.Utf8.encodeString text) text :=
    Text.Utf8.decode_eq_ok_iff.mp (Text.Utf8.decode_encodeString text)
  exact load_eq (.first hfile) (.config hbytes hread hpreview)

/-- CORRECT. Whatever members of a configuration are written in an object, in whatever order and
among whatever members with other names, the file with this text is loaded as the configuration
that has the values of the members that are there, and the defaults of the others. With all members
there this is the configuration that was written, and so its own text is loaded as itself. -/
theorem load_written (c : Config) (hlow : 1 ≤ c.bodyPreview)
    (hhigh : c.bodyPreview ≤ 2 ^ 64 - 1) :
    (∀ ms, c.Writes ms → LoadsAs (Json.object ms).text (c.part (present ms))) ∧
    (∀ fs f, (c.part fs).member f = if f ∈ fs then c.member f else ({} : Config).member f) ∧
    (∀ ms, c.Writes ms → (∀ f, f ∈ present ms) → LoadsAs (Json.object ms).text c) ∧
    c.Writes c.members ∧ c.text = (Json.object c.members).text ∧ LoadsAs c.text c := by
  have hfits : c.bodyPreview < pow2 64 := Nat.lt_of_le_of_lt hhigh (by decide)
  have hpart (ms : List (String × Json)) (h : c.Writes ms) :
      LoadsAs (Json.object ms).text (c.part (present ms)) :=
    loadsAs_of_read (read_written hfits h) (part_preview_pos hlow)
  have hall (ms : List (String × Json)) (h : c.Writes ms) (hms : ∀ f, f ∈ present ms) :
      LoadsAs (Json.object ms).text c := by
    have hwhole := hpart ms h
    rwa [part_of_all hms] at hwhole
  refine ⟨hpart, part_member c, hall, c.writes_members, c.text_eq, ?_⟩
  rw [text_eq]
  exact hall c.members c.writes_members fun f => by
    rw [present_members]
    exact f.mem_all

/-- A configuration of which two members are written, the last first, among three others. -/
def quiet : Config := ⟨.log, .never, false, 1⟩

def scattered : List (String × Json) :=
  [("Reporter", .array [.null, .object [("reporter", .string "\n"), ("", .integer (-7))]]),
    ("bodyPreview", .integer 1), ("x", .double ⟨0x7E37E43C8800759C⟩),
    ("x", .bool false), ("reporter", .string "log")]

/-- What is left out of it has the defaults; its own text has everything. -/
theorem load_written_when_scattered :
    let dir := Path.ofString "/w"
    let files (text : String) : Files :=
      { tree := .directory [(Text.Utf8.encodeString "w", .directory
          [(Text.Utf8.encodeString "hakiki.json", .file (Text.Utf8.encodeString text))])]
        workingDirectory := dir }
    1 ≤ quiet.bodyPreview ∧ quiet.bodyPreview ≤ 2 ^ 64 - 1 ∧ quiet.Writes scattered ∧
      LoadsAs (Json.object scattered).text ⟨.log, .auto, true, 1⟩ ∧
      quiet.Writes quiet.members ∧ (∀ f, f ∈ present quiet.members) ∧
      LoadsAs (Json.object quiet.members).text quiet ∧
      Files.entry? (files quiet.text) (dir.join (.ofString "hakiki.json")) =
        some (.file (Text.Utf8.encodeString quiet.text)) ∧
      load (files quiet.text) dir none =
        ([loadRecord (.ofString "/w/hakiki.json")], .ok quiet) := by
  intro dir files
  have hwrites : quiet.Writes scattered := by
    have hother : Field.ofName? "Reporter" = none ∧ Field.ofName? "x" = none := by decide
    refine ⟨?_, by decide⟩
    simp only [scattered, List.forall_mem_cons, Allows, hother.1, hother.2]
    have hfinite : Double.isFinite ⟨0x7E37E43C8800759C⟩ = true := by decide
    exact ⟨⟨trivial, ⟨trivial, trivial, trivial⟩, trivial⟩, rfl, hfinite, trivial, rfl, by simp⟩
  have hfile : Files.entry? (files quiet.text) (dir.join (.ofString "hakiki.json")) =
      some (.file (Text.Utf8.encodeString quiet.text)) := rfl
  have hall (f : Field) : f ∈ present quiet.members := by
    rw [present_members]
    exact f.mem_all
  obtain ⟨hpart, -, hwhole, hmembers, -, htext⟩ :=
    load_written quiet (by decide) (by decide)
  exact ⟨by decide, by decide, hwrites, hpart scattered hwrites, hmembers, hall,
    hwhole quiet.members hmembers hall, hfile, htext _ dir hfile⟩

end Attest.Config
