import Attest.Proofs.Http.Parameters
import Attest.Proofs.Response.Outcome

/-!
Checks of the content type.

A check compares the media type as it is written and the charset in any letter case
(`Response.contentTypeCharset_decides`). On a header that is a media type, with a charset or without
one, it passes for these and for nothing else (`Response.contentType_exact`).
-/

namespace Attest

namespace Response

variable {r : Response} {c : Chain} {mediaType charset : String}

/-! ### Verdicts -/

theorem contentTypeVerdict_eq_none_iff :
    r.contentTypeVerdict mediaType none = none ↔ r.contentType.mediaType = mediaType := by
  rw [contentTypeVerdict]
  split
  next hne => simp [hne]
  next heq => simpa using heq

theorem charsetVerdict_eq_none_iff :
    r.contentTypeVerdict mediaType (some charset) = none ↔
      r.contentType.mediaType = mediaType ∧
        Text.sameIgnoringCase r.contentType.charsetText charset = true := by
  rw [contentTypeVerdict]
  split
  next hne => simp [hne]
  next heq =>
    have hmedia : r.contentType.mediaType = mediaType := by simpa using heq
    simp [require, hmedia]

theorem kind_of_contentTypeVerdict {charset : Option String} {f : Failure}
    (h : r.contentTypeVerdict mediaType charset = some f) : f.kind = .contentTypeMismatch := by
  unfold contentTypeVerdict at h
  dsimp only at h
  split at h
  next => cases h; rfl
  next =>
    split at h
    next => cases h
    next =>
      rw [require] at h
      split at h <;> cases h
      rfl

/-- Another media type than the expected one is a mismatch. -/
theorem exists_contentTypeVerdict (h : r.contentType.mediaType ≠ mediaType) :
    ∃ f, r.contentTypeVerdict mediaType none = some f ∧ f.kind = .contentTypeMismatch := by
  obtain ⟨f, hf⟩ := Option.ne_none_iff_exists'.mp (mt contentTypeVerdict_eq_none_iff.mp h)
  exact ⟨f, hf, kind_of_contentTypeVerdict hf⟩

/-! ### Checks -/

/-- The check of the media type passes for the one of the header. -/
theorem contentType_decides (r : Response) (hok : c.failed = false) (mediaType : String) :
    (r.call c (.contentType mediaType)).Decides c .contentTypeMismatch
      (r.contentType.mediaType = mediaType) := by
  have hfound : (r.visit (.contentType mediaType)).found =
      (r.contentTypeVerdict mediaType none).found .nothing := by rw [visit, BodyState.untouched]
  exact call_decides hok hfound rfl contentTypeVerdict_eq_none_iff fun _ =>
    kind_of_contentTypeVerdict

/-- The check of both passes for those of the header, the charset in any letter case. -/
theorem contentTypeCharset_decides (r : Response) (hok : c.failed = false)
    (mediaType charset : String) :
    (r.call c (.contentTypeCharset mediaType charset)).Decides c .contentTypeMismatch
      (r.contentType.mediaType = mediaType ∧
        Text.sameIgnoringCase r.contentType.charsetText charset = true) := by
  have hfound : (r.visit (.contentTypeCharset mediaType charset)).found =
      (r.contentTypeVerdict mediaType (some charset)).found .nothing := by
    rw [visit, BodyState.untouched]
  exact call_decides hok hfound rfl charsetVerdict_eq_none_iff fun _ => kind_of_contentTypeVerdict

end Response

/-! ### Headers as they are written -/

/-- The charset of a header is known in any letter case, as it was before. -/
theorem sameIgnoringCase_lower {charset charset' : String} :
    Text.sameIgnoringCase (String.ofList (Text.asciiLower charset.toList)) charset' = true ↔
      Text.sameIgnoringCase charset' charset = true := by
  rw [Text.sameIgnoringCase_iff, Text.sameIgnoringCase_iff, String.toList_ofList,
    Text.asciiLower_asciiLower, eq_comm]

theorem sameIgnoringCase_empty {charset : String} :
    Text.sameIgnoringCase "" charset = true ↔ charset = "" := by
  rw [Text.sameIgnoringCase_iff, eq_comm]
  simp [Text.asciiLower]

namespace Response

/-- CORRECT. On a header with a media type and a charset the checks pass for the media type as it is
written and the charset in any letter case, and for nothing else; on a media type alone they pass
for it and the empty charset. Where they do not pass they fail once, with a mismatch. -/
theorem contentType_exact (r : Response) (c : Chain) (hok : c.failed = false) (mediaType : String)
    (hmedia : IsMediaType mediaType.toList) :
    (∀ charset : String, IsToken charset.toList →
      r.headers.first? "content-type" = some (mediaType ++ "; charset=" ++ charset) →
      ∀ mediaType' charset' : String,
        (r.call c (.contentTypeCharset mediaType' charset')).Decides c .contentTypeMismatch
          (mediaType' = mediaType ∧ Text.sameIgnoringCase charset' charset = true) ∧
        (r.call c (.contentType mediaType')).Decides c .contentTypeMismatch
          (mediaType' = mediaType)) ∧
    (r.headers.first? "content-type" = some mediaType →
      ∀ mediaType' charset' : String,
        (r.call c (.contentTypeCharset mediaType' charset')).Decides c .contentTypeMismatch
          (mediaType' = mediaType ∧ charset' = "")) := by
  constructor
  · intro charset hcharset hheader mediaType' charset'
    have hparse : r.contentType =
        ⟨mediaType, some (String.ofList (Text.asciiLower charset.toList))⟩ := by
      rw [contentType, contentTypeHeader, hheader]
      exact ContentType.parse_charset hmedia hcharset
    have hboth := r.contentTypeCharset_decides hok mediaType' charset'
    have hone := r.contentType_decides hok mediaType'
    rw [hparse] at hboth hone
    rw [ContentType.charsetText, Option.getD_some, sameIgnoringCase_lower] at hboth
    rw [eq_comm (a := mediaType)] at hboth hone
    exact ⟨hboth, hone⟩
  · intro hheader mediaType' charset'
    have hparse : r.contentType = ⟨mediaType, none⟩ := by
      rw [contentType, contentTypeHeader, hheader]
      exact ContentType.parse_mediaType hmedia
    have hboth := r.contentTypeCharset_decides hok mediaType' charset'
    rw [hparse, ContentType.charsetText, Option.getD_none, sameIgnoringCase_empty,
      eq_comm (a := mediaType)] at hboth
    exact hboth

/-- A response with one content type header and no body. -/
def headed (header : String) : Response where
  status := .ok
  headers := ⟨[("content-type", [Text.Utf8.encodeString header])]⟩
  body := .unread none

/-- Capital letters count in a media type, and do not count in a charset. -/
theorem contentType_exact_in_koi :
    let c : Chain := { reporter := .recording }
    let koi := headed "Text/Plain; charset=KOI8-R"
    let alone := headed "Text/Plain"
    c.failed = false ∧ IsMediaType "Text/Plain".toList ∧ IsToken "KOI8-R".toList ∧
      koi.headers.first? "content-type" = some ("Text/Plain" ++ "; charset=" ++ "KOI8-R") ∧
      (koi.call c (.contentTypeCharset "Text/Plain" "koi8-r")).Gives c .nothing ∧
      (∃ f, f.kind = .contentTypeMismatch ∧
        (koi.call c (.contentType "text/plain")).Fails c f .nothing) ∧
      alone.headers.first? "content-type" = some "Text/Plain" ∧
      (alone.call c (.contentTypeCharset "Text/Plain" "")).Gives c .nothing := by
  intro c koi alone
  have hmedia : IsMediaType "Text/Plain".toList :=
    ⟨"Text".toList, "Plain".toList, by decide, by decide, rfl⟩
  have hcharset : IsToken "KOI8-R".toList := by decide
  have hkoi : koi.headers.first? "content-type" =
      some ("Text/Plain" ++ "; charset=" ++ "KOI8-R") := by decide +kernel
  have halone : alone.headers.first? "content-type" = some "Text/Plain" := by decide +kernel
  obtain ⟨hwith, -⟩ := contentType_exact koi c rfl "Text/Plain" hmedia
  obtain ⟨-, hwithout⟩ := contentType_exact alone c rfl "Text/Plain" hmedia
  obtain ⟨hpass, -⟩ := hwith "KOI8-R" hcharset hkoi "Text/Plain" "koi8-r"
  obtain ⟨-, hfail⟩ := hwith "KOI8-R" hcharset hkoi "text/plain" ""
  have hempty := hwithout halone "Text/Plain" ""
  exact ⟨rfl, hmedia, hcharset, hkoi, hpass.passes.mpr (by decide), hfail.fails (by decide),
    halone, hempty.passes.mpr (by decide)⟩

end Response

end Attest
