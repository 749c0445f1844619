import Attest.Http.ContentType
import Attest.Proofs.Text.Split

/-!
The values of content type headers, read against the form of media types.

What is read as a media type is a type, a slash and a subtype, with parameters after it
(`MediaText`). The text before the first semicolon is then this media type, as far as there is such
a text (`ContentType.parse_leading`): a value that begins with a semicolon gives the charset of what
follows, and not its media type.
-/

namespace Attest

/-! ### Tokens -/

/-- A text of token characters, and not the empty one. -/
def IsToken (s : List Char) : Prop := s ≠ [] ∧ ∀ c ∈ s, isTokenChar c = true

-- decided by the characters of the text, not by all characters that there are
instance (s : List Char) : Decidable (IsToken s) :=
  decidable_of_iff (s ≠ [] ∧ s.all isTokenChar = true) (by rw [List.all_eq_true, IsToken])

/-- Characters of tokens are visible ASCII. -/
theorem toNat_of_isTokenChar {c : Char} (h : isTokenChar c = true) :
    0x21 ≤ c.toNat ∧ c.toNat ≤ 0x7E := by
  rw [isTokenChar, Bool.or_eq_true] at h
  rcases h with h | h
  · unfold Char.isAlphanum Char.isAlpha Char.isUpper Char.isLower Char.isDigit at h
    simp only [Bool.or_eq_true, Bool.and_eq_true, decide_eq_true_eq, ge_iff_le,
      UInt32.le_iff_toNat_le] at h
    change ((65 ≤ c.toNat ∧ c.toNat ≤ 90) ∨ (97 ≤ c.toNat ∧ c.toNat ≤ 122)) ∨
      (48 ≤ c.toNat ∧ c.toNat ≤ 57) at h
    omega
  · have hc := List.elem_iff.mp h
    simp only [List.mem_cons, List.not_mem_nil, or_false] at hc
    rcases hc with rfl | rfl | rfl | rfl | rfl | rfl | rfl | rfl | rfl | rfl | rfl | rfl | rfl |
      rfl | rfl <;> decide

theorem isWhiteSpace_of_isTokenChar {c : Char} (h : isTokenChar c = true) :
    Unicode.isWhiteSpace c = false := by
  obtain ⟨hlow, hhigh⟩ := toNat_of_isTokenChar h
  simp [Unicode.isWhiteSpace, Unicode.CodeSet.contains, Unicode.CodeSet.containsCode,
    Unicode.whiteSpace, Unicode.CodeSet.inRanges]
  omega

section Token

variable {s : List Char} {c : Char}

/-- What is no token character is not in a text of them. -/
theorem not_mem_of_isTokenChar (h : ∀ c ∈ s, isTokenChar c = true) (hc : isTokenChar c = false) :
    c ∉ s := fun hmem => by simp [h c hmem] at hc

/-- A text of token characters is read up to the first other one. -/
theorem takeWhile_isTokenChar (h : ∀ c ∈ s, isTokenChar c = true) (hc : isTokenChar c = false)
    (rest : List Char) : (s ++ c :: rest).takeWhile isTokenChar = s := by
  rw [List.takeWhile_append_of_pos h, List.takeWhile_cons_of_neg (by simp [hc]), List.append_nil]

theorem dropWhile_isTokenChar (h : ∀ c ∈ s, isTokenChar c = true) (hc : isTokenChar c = false)
    (rest : List Char) : (s ++ c :: rest).dropWhile isTokenChar = c :: rest := by
  rw [List.dropWhile_append_of_pos h, List.dropWhile_cons_of_neg (by simp [hc])]

theorem isToken_of_takeWhile {t : List Char} (h : s.takeWhile isTokenChar = c :: t) :
    IsToken (c :: t) := by
  refine ⟨by simp, fun x hx => ?_⟩
  rw [← h] at hx
  exact List.mem_takeWhile_imp hx

end Token

/-! ### Media types -/

/-- A type and a subtype, with a slash between them. -/
def IsMediaType (s : List Char) : Prop :=
  ∃ type subtype, IsToken type ∧ IsToken subtype ∧ s = type ++ '/' :: subtype

/-- The texts that are read as a media type, with their parameters. -/
inductive MediaText : List Char → List MediaParam → Prop where
  /-- Without parameters the subtype may be empty. -/
  | bare {type subtype : List Char} (htype : IsToken type)
      (hsubtype : ∀ c ∈ subtype, isTokenChar c = true) : MediaText (type ++ '/' :: subtype) []
  | parameters {type subtype rest : List Char} {params : List MediaParam} (htype : IsToken type)
      (hsubtype : IsToken subtype) (hparams : MediaParam.readAll? rest.length rest = some params) :
      MediaText (type ++ '/' :: (subtype ++ ';' :: rest)) params

theorem readMedia?_eq_some_iff {s : List Char} {params : List MediaParam} :
    readMedia? s = some params ↔ MediaText s params := by
  constructor
  · intro h
    unfold readMedia? at h
    split at h
    next c type rest htype hrest =>
      -- the stretches that were read are put together again
      have hs : s = c :: type ++ '/' :: rest := by
        rw [← htype, ← hrest, List.takeWhile_append_dropWhile]
      have htoken := isToken_of_takeWhile htype
      split at h
      next hnone =>
        have hall := List.dropWhile_eq_nil_iff.mp hnone
        cases h
        rw [hs]
        exact .bare htoken hall
      next d subtype more hsubtype hmore =>
        have hr : rest = d :: subtype ++ ';' :: more := by
          rw [← hsubtype, ← hmore, List.takeWhile_append_dropWhile]
        rw [hs, hr]
        exact .parameters htoken (isToken_of_takeWhile hsubtype) h
      next => cases h
    next => cases h
  · have hslash : isTokenChar '/' = false := by decide
    have hsemicolon : isTokenChar ';' = false := by decide
    rintro (⟨⟨hne, htype⟩, hsubtype⟩ | ⟨⟨hne, htype⟩, ⟨hsub, hsubtype⟩, hparams⟩)
    · obtain ⟨c, type, rfl⟩ := List.exists_cons_of_ne_nil hne
      simp only [readMedia?, takeWhile_isTokenChar htype hslash, dropWhile_isTokenChar htype hslash,
        List.dropWhile_eq_nil_iff.mpr hsubtype]
    · obtain ⟨c, type, rfl⟩ := List.exists_cons_of_ne_nil hne
      obtain ⟨d, subtype, rfl⟩ := List.exists_cons_of_ne_nil hsub
      simp only [readMedia?, takeWhile_isTokenChar htype hslash, dropWhile_isTokenChar htype hslash,
        takeWhile_isTokenChar hsubtype hsemicolon, dropWhile_isTokenChar hsubtype hsemicolon,
        hparams]

/-- The text before the first semicolon of a media type with parameters. -/
theorem MediaText.takeWhile {s : List Char} {params : List MediaParam} (h : MediaText s params) :
    IsMediaType (s.takeWhile (· ≠ ';')) ∨
      params = [] ∧ ∃ type, IsToken type ∧ s.takeWhile (· ≠ ';') = type ++ ['/'] := by
  have hsemicolon : isTokenChar ';' = false := by decide
  have hslash (rest : List Char) :
      ('/' :: rest).takeWhile (· ≠ ';') = '/' :: rest.takeWhile (· ≠ ';') :=
    List.takeWhile_cons_of_pos (by decide)
  cases h with
  | @bare type subtype htype hsubtype =>
    rw [Text.takeWhile_append_of_not_mem (not_mem_of_isTokenChar htype.2 hsemicolon), hslash,
      Text.takeWhile_of_not_mem (not_mem_of_isTokenChar hsubtype hsemicolon)]
    cases subtype with
    | nil => exact .inr ⟨rfl, type, htype, rfl⟩
    | cons c subtype => exact .inl ⟨type, c :: subtype, htype, ⟨by simp, hsubtype⟩, rfl⟩
  | @parameters type subtype rest params htype hsubtype _ =>
    have hend : (';' :: rest).takeWhile (· ≠ ';') = [] := List.takeWhile_cons_of_neg (by decide)
    rw [Text.takeWhile_append_of_not_mem (not_mem_of_isTokenChar htype.2 hsemicolon), hslash,
      Text.takeWhile_append_of_not_mem (not_mem_of_isTokenChar hsubtype.2 hsemicolon), hend,
      List.append_nil]
    exact .inl ⟨type, subtype, htype, hsubtype, rfl⟩

/-! ### Segments -/

namespace ContentType

/-- What stands after the first semicolon. -/
def following (value : List Char) : List Char := (value.dropWhile (· ≠ ';')).tail

theorem leading_eq (value : List Char) :
    leading value = Text.trimBy Unicode.isWhiteSpace (value.takeWhile (· ≠ ';')) := by
  rw [leading, Text.splitAt_eq]

theorem not_mem_leading (value : List Char) : ';' ∉ leading value := by
  intro h
  rw [leading_eq] at h
  simpa using List.mem_takeWhile_imp (Text.mem_of_mem_trimBy h)

/-- The segments are the first, unless it is blank, and those of what follows. -/
theorem segments_eq (value : List Char) :
    segments value = [leading value].filter (· ≠ []) ++ segments (following value) := by
  rw [leading_eq, segments, following, Text.splitAt_eq ';' value, List.map_cons,
    ← List.singleton_append, List.filter_append]
  cases value.dropWhile (· ≠ ';') <;> rfl

theorem segments_of_leading {value : List Char} (h : leading value ≠ []) :
    segments value = leading value :: segments (following value) := by
  rw [segments_eq, List.filter_cons_of_pos (by simpa using h)]
  rfl

theorem segments_of_blank {value : List Char} (h : leading value = []) :
    segments value = segments (following value) := by
  rw [segments_eq, h]
  simp

/-- The text that is read: the segments, with a semicolon and a blank between them. -/
def rejoined (value : List Char) : List Char := [';', ' '].intercalate (segments value)

/-- Where the first segment is not blank, it stands before the first semicolon of what is read. -/
theorem takeWhile_rejoined {value : List Char} (h : leading value ≠ []) :
    (rejoined value).takeWhile (· ≠ ';') = leading value := by
  rw [rejoined, segments_of_leading h]
  cases segments (following value) with
  | nil => rw [List.intercalate_singleton, Text.takeWhile_of_not_mem (not_mem_leading value)]
  | cons s more =>
    rw [List.intercalate_cons_cons, List.append_assoc,
      Text.takeWhile_append_of_not_mem (not_mem_leading value)]
    exact List.append_nil _

/-! ### Parsing -/

/-- What comes out where something is read: the text before the first semicolon, and the charset. -/
theorem parse_of_read {value : String} {params : List MediaParam}
    (h : readMedia? (rejoined value.toList) = some params) :
    parse value = ⟨String.ofList (leading value.toList),
      ((charsetOf params).filter (· ≠ [])).map String.ofList⟩ := by
  rw [rejoined] at h
  rw [parse, h]

theorem parse_of_none {value : String} (h : readMedia? (rejoined value.toList) = none) :
    parse value = {} := by
  rw [rejoined] at h
  rw [parse, h]

/-- CORRECT. A value with some text before its first semicolon comes out empty where it does not
have the form of a media type, else with this text as its media type; the text is then a type and a
subtype, or a type and a slash without a charset. A value with no text there has no media type, and
gives the charset of what follows. -/
theorem parse_leading (value : String) :
    (leading value.toList ≠ [] ∧
      (parse value = {} ∧ (¬ ∃ params, MediaText (rejoined value.toList) params) ∨
        (parse value).mediaType = String.ofList (leading value.toList) ∧
          (IsMediaType (leading value.toList) ∨
            (parse value).charset = none ∧
              ∃ type, IsToken type ∧ leading value.toList = type ++ ['/']))) ∨
    (leading value.toList = [] ∧ (parse value).mediaType = "" ∧
      (parse value).charset = (parse (String.ofList (following value.toList))).charset) := by
  by_cases hblank : leading value.toList = []
  · refine .inr ⟨hblank, ?_⟩
    rw [parse, parse, segments_of_blank hblank, String.toList_ofList, hblank]
    -- both are read from the same segments, and one of them has nothing before its semicolon
    cases readMedia? ([';', ' '].intercalate (segments (following value.toList))) <;>
      exact ⟨rfl, rfl⟩
  · refine .inl ⟨hblank, ?_⟩
    cases hread : readMedia? (rejoined value.toList) with
    | none =>
      refine .inl ⟨parse_of_none hread, fun ⟨params, hmedia⟩ => ?_⟩
      rw [readMedia?_eq_some_iff.mpr hmedia] at hread
      cases hread
    | some params =>
      have hfirst := (readMedia?_eq_some_iff.mp hread).takeWhile
      rw [takeWhile_rejoined hblank] at hfirst
      rw [parse_of_read hread]
      refine .inr ⟨rfl, ?_⟩
      rcases hfirst with hmedia | ⟨rfl, htype⟩
      · exact .inl hmedia
      · exact .inr ⟨rfl, htype⟩

/-- Half a content type: a charset, and nothing that it could be the charset of. -/
theorem charset_of_no_media_type : ¬ ∀ value : String, parse value = {} ∨
    IsMediaType (parse value).mediaType.toList ∧
      (parse value).mediaType = String.ofList (leading value.toList) := by
  intro h
  rcases h ";text/plain; charset=utf-8" with hempty | ⟨⟨type, subtype, -, -, hmedia⟩, -⟩
  · exact absurd hempty (by decide)
  · have hblank : (parse ";text/plain; charset=utf-8").mediaType.toList = [] := by decide
    rw [hblank] at hmedia
    simp at hmedia

end ContentType

end Attest
