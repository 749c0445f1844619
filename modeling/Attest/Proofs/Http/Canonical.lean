import Attest.Proofs.Http.Parameters

/-!
The plain way to write a content type.

Whatever a header looks like, what is read from it can be written again as a media type and at most
a charset (`ContentType.canonical`), and is read back from this (`ContentType.parse_canonical`): the
media type that comes out is one that is read as such (`ContentType.parse_shape`), and the charset
has no more capital letters (`ContentType.asciiLower_charset`).
-/

namespace Attest

/-! ### Lower case -/

/-- Lower case of token characters are token characters. -/
theorem isTokenChar_toLower {c : Char} (h : isTokenChar c = true) :
    isTokenChar c.toLower = true := by
  have hascii : ∀ n < 0x7F, isTokenChar (Char.ofNat n) = true →
      isTokenChar (Char.ofNat n).toLower = true := by decide +kernel
  obtain ⟨-, hhigh⟩ := toNat_of_isTokenChar h
  have hc := hascii c.toNat (by omega)
  rw [Char.ofNat_toNat] at hc
  exact hc h

/-- The charset of parameters comes out in lower case. -/
theorem asciiLower_charsetOf {params : List MediaParam} {charset : List Char}
    (h : charsetOf params = some charset) : Text.asciiLower charset = charset := by
  have hvalue (h : (params.find? (·.isCharset)).map (fun p => Text.asciiLower p.value) =
      some charset) : Text.asciiLower charset = charset := by
    obtain ⟨p, -, rfl⟩ := Option.map_eq_some_iff.mp h
    exact Text.asciiLower_asciiLower p.value
  unfold charsetOf at h
  split at h
  next p _ _ =>
    split at h
    next =>
      obtain rfl := Option.some.inj h
      cases p.quoted <;> decide
    next => exact hvalue h
  next => exact hvalue h

namespace ContentType

/-- A content type in plain writing: the media type, and the charset if there is one. -/
def canonical (ct : ContentType) : String :=
  match ct.charset with
  | none => ct.mediaType
  | some charset => ct.mediaType ++ "; charset=" ++ charset

/-- No charset is declared, or one of token characters. -/
def HasPlainCharset (ct : ContentType) : Prop :=
  ∀ charset, ct.charset = some charset → ∀ c ∈ charset.toList, isTokenChar c = true

variable {value charset : String}

/-! ### What comes out of a header -/

/-- What has a media type was read from a text of the form of media types. -/
theorem exists_params (h : (parse value).mediaType ≠ "") :
    ∃ params, MediaText (rejoined value.toList) params ∧ leading value.toList ≠ [] ∧
      parse value = ⟨String.ofList (leading value.toList),
        ((charsetOf params).filter (· ≠ [])).map String.ofList⟩ := by
  cases hread : readMedia? (rejoined value.toList) with
  | none => exact absurd (congrArg mediaType (parse_of_none hread)) h
  | some params =>
    have hparse := parse_of_read hread
    refine ⟨params, readMedia?_eq_some_iff.mp hread, fun hblank => h ?_, hparse⟩
    rw [hparse, hblank]

/-- A media type that comes out is a type and a subtype, or a type and a slash without a charset. -/
theorem parse_shape (h : (parse value).mediaType ≠ "") :
    IsMediaType (parse value).mediaType.toList ∨
      (parse value).charset = none ∧
        ∃ type, IsToken type ∧ (parse value).mediaType = String.ofList (type ++ ['/']) := by
  obtain ⟨params, hmedia, hleading, hparse⟩ := exists_params h
  have hfirst := hmedia.takeWhile
  rw [takeWhile_rejoined hleading] at hfirst
  rw [hparse]
  rcases hfirst with hmedia | ⟨rfl, type, htype, hslash⟩
  · exact .inl (by rwa [String.toList_ofList])
  · exact .inr ⟨rfl, type, htype, congrArg String.ofList hslash⟩

/-- A charset that comes out is not empty and has no capital letters. -/
theorem asciiLower_charset (h : (parse value).mediaType ≠ "")
    (hcharset : (parse value).charset = some charset) :
    charset.toList ≠ [] ∧ Text.asciiLower charset.toList = charset.toList := by
  obtain ⟨params, -, -, hparse⟩ := exists_params h
  rw [hparse] at hcharset
  obtain ⟨cs, hcs, rfl⟩ := Option.map_eq_some_iff.mp hcharset
  obtain ⟨hfound, hne⟩ := Option.filter_eq_some_iff.mp hcs
  rw [String.toList_ofList]
  exact ⟨by simpa using hne, asciiLower_charsetOf hfound⟩

/-- What has been read from a header is read again from its plain writing. -/
theorem parse_canonical (h : (parse value).mediaType ≠ "")
    (hplain : (parse value).HasPlainCharset) : parse (parse value).canonical = parse value := by
  have hshape := parse_shape h
  have hlower (charset : String) (hcharset : (parse value).charset = some charset) :=
    asciiLower_charset h hcharset
  cases hct : parse value with
  | mk mediaType charset =>
    rw [hct] at hshape hlower hplain
    cases charset with
    | none =>
      rcases hshape with hmedia | ⟨-, type, htype, hslash⟩
      · exact parse_mediaType hmedia
      · have hbare := @parse_bare type [] htype (by simp)
        rw [← hslash] at hbare
        exact hbare
    | some charset =>
      obtain ⟨hne, hsame⟩ := hlower charset rfl
      have hmedia := hshape.resolve_right fun ⟨hnone, _⟩ => by cases hnone
      have hparse := parse_charset hmedia ⟨hne, hplain charset rfl⟩
      rwa [hsame, String.ofList_toList] at hparse

end ContentType

end Attest
