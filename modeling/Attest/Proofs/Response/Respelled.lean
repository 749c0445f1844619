import Attest.Proofs.Http.Canonical
import Attest.Proofs.Response.ContentType

/-!
Headers that say the same in other words.

Calls that begin with the content type depend on the header through what is read from it
(`Response.call_respelled`). So they do the same wherever the charset stands among the parameters
(`Response.charset_anywhere`), but for one spelling that is cut short
(`Response.charset_cut_short`), and they still pass when the header is put into plain writing
(`Response.canonical_passes`).
-/

namespace Attest

/-- Whether a call begins with a look at the content type. -/
def ResponseCall.asksType : ResponseCall → Bool
  | .contentType _ | .contentTypeCharset _ _ | .text | .json => true
  | _ => false

/-- Two calls on responses did the same, whatever the headers of these are. -/
structure Effect.SameButHeaders (e e' : Effect (Chain × Response) Reply) : Prop where
  chain : e.state.1 = e'.state.1
  body : e.state.2.body = e'.state.2.body
  events : e.events = e'.events
  outcome : e.outcome = e'.outcome

namespace Response

/-! ### What a call takes from the header -/

section Respelled

variable {r : Response} {headers : Headers}
  (htype : { r with headers := headers }.contentType = r.contentType)
  (hmedia : r.contentType.mediaType ≠ "")
include htype hmedia

/-- With a media type the header is not quoted as it stands. -/
theorem contentTypeVerdict_respelled (mediaType : String) (charset : Option String) :
    { r with headers := headers }.contentTypeVerdict mediaType charset =
      r.contentTypeVerdict mediaType charset := by
  have hsome : r.contentType.mediaType.isEmpty = false := by simpa using hmedia
  unfold contentTypeVerdict
  simp only [htype, hsome, Bool.false_and, Bool.false_eq_true, if_false]

theorem visit_respelled {k : ResponseCall} (hk : k.asksType = true) :
    { r with headers := headers }.visit k = r.visit k := by
  have hverdict := contentTypeVerdict_respelled htype hmedia
  cases k with
  | contentType | contentTypeCharset => simp only [visit, hverdict]
  | text => simp only [visit, visitText, hverdict, htype]
  | json =>
    have hread : { r with headers := headers }.readJson = r.readJson := rfl
    simp only [visit, visitJson, hverdict, htype, hread]
  | status | noContent | headers | header | body => cases hk

/-- Calls that begin with the content type do the same on headers with the same content type. -/
theorem call_respelled (c : Chain) {k : ResponseCall} (hk : k.asksType = true) :
    ({ r with headers := headers }.call c k).SameButHeaders (r.call c k) := by
  cases hf : c.failed with
  | true =>
    rw [call_of_failed _ k hf, call_of_failed _ k hf]
    exact ⟨rfl, rfl, rfl, rfl⟩
  | false =>
    have hremains : { r with headers := headers }.remains k = r.remains k := by
      cases k <;> rfl
    rw [call_of_ok _ k hf, call_of_ok _ k hf, visit_respelled htype hmedia hk, hremains]
    exact ⟨rfl, rfl, rfl, rfl⟩

end Respelled

theorem contentType_of_first? {r : Response} {header : String}
    (h : r.headers.first? "content-type" = some header) : r.contentType = .parse header := by
  rw [contentType, contentTypeHeader, h, Option.getD_some]

/-! ### The charset among other parameters -/

/-- CORRECT. Of a media type with parameters in tokens, one of them the charset, the charset is the
value of this parameter, without its quotes and in lower case, wherever the parameter stands and
whatever the others are; but where it is first of several and is UTF-8 in quotes, the charset is the
quote and four letters. Calls that begin with the content type do the same on all headers with this
media type and this charset, as long as it is cut short in both headers or in none. -/
theorem charset_anywhere {mediaType : List Char} {params : List MediaParam} {p : MediaParam}
    (hmedia : IsMediaType mediaType) (hparams : ∀ q ∈ params, q.InTokens)
    (hsole : params.filter (·.isCharset) = [p]) :
    ContentType.parse (String.ofList (ContentType.written mediaType params)) =
        ⟨String.ofList mediaType, some (String.ofList
          (if LeadsQuoted params then ['"', 'u', 't', 'f', '-'] else Text.asciiLower p.value))⟩ ∧
      ∀ (params' : List MediaParam) (p' : MediaParam), (∀ q ∈ params', q.InTokens) →
        params'.filter (·.isCharset) = [p'] →
        Text.asciiLower p'.value = Text.asciiLower p.value →
        (LeadsQuoted params' ↔ LeadsQuoted params) →
        ∀ (r : Response) (headers : Headers) (c : Chain) (k : ResponseCall), k.asksType = true →
          r.headers.first? "content-type" =
            some (String.ofList (ContentType.written mediaType params)) →
          headers.first? "content-type" =
            some (String.ofList (ContentType.written mediaType params')) →
          ({ r with headers := headers }.call c k).SameButHeaders (r.call c k) := by
  have hparse := ContentType.parse_of_sole hmedia hparams hsole
  refine ⟨hparse, ?_⟩
  intro params' p' hparams' hsole' hvalue hleads r headers c k hk hheader hheader'
  have hparse' := ContentType.parse_of_sole hmedia hparams' hsole'
  have hfound : soleCharset params' p' = soleCharset params p := by
    rw [soleCharset, soleCharset, hvalue]
    simp only [hleads]
  have hr : r.contentType =
      ⟨String.ofList mediaType, some (String.ofList (soleCharset params p))⟩ :=
    (contentType_of_first? hheader).trans hparse
  have hr' : { r with headers := headers }.contentType = r.contentType := by
    rw [hr, ← hfound, ← hparse']
    exact contentType_of_first? hheader'
  have hsome : r.contentType.mediaType ≠ "" := by
    rw [hr]
    simpa using hmedia.isSolid.ne_nil
  exact call_respelled hr' hsome c hk

/-- A charset in quotes after another parameter, and the same without quotes before it. -/
theorem charset_anywhere_in_koi :
    let mediaType := "text/plain".toList
    let quoted : MediaParam := ⟨"Charset".toList, "KOI8-R".toList, true⟩
    let plain : MediaParam := ⟨"charset".toList, "koi8-r".toList, false⟩
    let other : MediaParam := ⟨"format".toList, "flowed".toList, false⟩
    let r := headed "text/plain; format=flowed; Charset=\"KOI8-R\""
    let headers := (headed "text/plain; charset=koi8-r; format=flowed").headers
    let c : Chain := { reporter := .recording }
    IsMediaType mediaType ∧ (∀ q ∈ [other, quoted], q.InTokens) ∧
      [other, quoted].filter (·.isCharset) = [quoted] ∧
      (∀ q ∈ [plain, other], q.InTokens) ∧ [plain, other].filter (·.isCharset) = [plain] ∧
      ContentType.parse (String.ofList (ContentType.written mediaType [other, quoted])) =
        ⟨"text/plain", some "koi8-r"⟩ ∧
      ({ r with headers := headers }.call c .text).SameButHeaders (r.call c .text) := by
  intro mediaType quoted plain other r headers c
  have hmedia : IsMediaType mediaType :=
    ⟨"text".toList, "plain".toList, by decide, by decide, rfl⟩
  have hother : other.InTokens := ⟨by decide, by decide⟩
  have hquoted : quoted.InTokens := ⟨by decide, by decide⟩
  have hplain : plain.InTokens := ⟨by decide, by decide⟩
  have hparams : ∀ q ∈ [other, quoted], q.InTokens := by simpa using ⟨hother, hquoted⟩
  have hparams' : ∀ q ∈ [plain, other], q.InTokens := by simpa using ⟨hplain, hother⟩
  have hsole : [other, quoted].filter (·.isCharset) = [quoted] := by decide
  have hsole' : [plain, other].filter (·.isCharset) = [plain] := by decide
  obtain ⟨hparse, hcalls⟩ := charset_anywhere hmedia hparams hsole
  refine ⟨hmedia, hparams, hsole, hparams', hsole', hparse.trans (by decide +kernel), ?_⟩
  exact hcalls [plain, other] plain hparams' hsole' (by decide) (by decide) r headers c .text rfl
    (by decide +kernel) (by decide +kernel)

/-- In quotes and before another parameter, UTF-8 is cut short. -/
theorem charset_cut_short :
    ¬ ∀ (mediaType : List Char) (params : List MediaParam) (p : MediaParam),
      IsMediaType mediaType → (∀ q ∈ params, q.InTokens) →
      params.filter (·.isCharset) = [p] →
      ContentType.parse (String.ofList (ContentType.written mediaType params)) =
        ⟨String.ofList mediaType, some (String.ofList (Text.asciiLower p.value))⟩ := by
  intro h
  let charset : MediaParam := ⟨"charset".toList, "utf-8".toList, true⟩
  let other : MediaParam := ⟨"format".toList, "flowed".toList, false⟩
  have hmedia : IsMediaType "text/plain".toList :=
    ⟨"text".toList, "plain".toList, by decide, by decide, rfl⟩
  have hcharset : charset.InTokens := ⟨by decide, by decide⟩
  have hother : other.InTokens := ⟨by decide, by decide⟩
  have hwhole := h _ [charset, other] charset hmedia (by simpa using ⟨hcharset, hother⟩) (by decide)
  have hcut : ContentType.parse (String.ofList (ContentType.written "text/plain".toList
      [charset, other])) = ⟨"text/plain", some "\"utf-"⟩ := by decide +kernel
  rw [hcut] at hwhole
  exact absurd hwhole (by decide +kernel)

/-! ### Plain writing -/

/-- A charset that passes for one of token characters is of token characters. -/
theorem hasPlainCharset_of_same {r : Response} {charset : String}
    (hmedia : r.contentType.mediaType ≠ "") (hcharset : ∀ d ∈ charset.toList, isTokenChar d = true)
    (h : Text.sameIgnoringCase r.contentType.charsetText charset = true) :
    r.contentType.HasPlainCharset := by
  intro found hfound d hd
  have htext : r.contentType.charsetText = found := by
    rw [ContentType.charsetText, hfound, Option.getD_some]
  rw [htext, Text.sameIgnoringCase_iff] at h
  obtain ⟨-, hlower⟩ := ContentType.asciiLower_charset hmedia hfound
  rw [← hlower, h] at hd
  obtain ⟨e, he, rfl⟩ := List.mem_map.mp hd
  exact isTokenChar_toLower (hcharset e he)

/-- CORRECT. What is read from a header, with a media type and no charset but one of token
characters, is read again from its plain writing. So a check that passes on a response, for a media
type and a charset of token characters, passes on each response with the header in plain writing. -/
theorem canonical_passes :
    (∀ header : String, (ContentType.parse header).mediaType ≠ "" →
      (ContentType.parse header).HasPlainCharset →
      ContentType.parse (ContentType.parse header).canonical = ContentType.parse header) ∧
    ∀ (r r' : Response) (c : Chain) (mediaType charset : String), c.failed = false →
      mediaType ≠ "" → (∀ d ∈ charset.toList, isTokenChar d = true) →
      r'.headers.first? "content-type" = some r.contentType.canonical →
      (r.call c (.contentTypeCharset mediaType charset)).Gives c .nothing →
      (r'.call c (.contentTypeCharset mediaType charset)).Gives c .nothing := by
  refine ⟨fun header => ContentType.parse_canonical, ?_⟩
  intro r r' c mediaType charset hok hne hcharset hheader hpass
  obtain ⟨hmedia, hsame⟩ := (r.contentTypeCharset_decides hok mediaType charset).passes.mp hpass
  have hsome : r.contentType.mediaType ≠ "" := by rwa [hmedia]
  have htype : r'.contentType = r.contentType := by
    rw [contentType_of_first? hheader]
    exact ContentType.parse_canonical hsome (hasPlainCharset_of_same hsome hcharset hsame)
  refine (r'.contentTypeCharset_decides hok mediaType charset).passes.mpr ?_
  rw [htype]
  exact ⟨hmedia, hsame⟩

/-- A header with blanks, capital letters and quotes, and its plain writing. -/
theorem canonical_passes_in_plain_letters :
    let r := headed " Text/HTML;; level=1; CHARSET=\"UTF-8\""
    let r' := headed "Text/HTML; charset=utf-8"
    let c : Chain := { reporter := .recording }
    r.contentType = ⟨"Text/HTML", some "utf-8"⟩ ∧
      r'.headers.first? "content-type" = some r.contentType.canonical ∧
      (r.call c (.contentTypeCharset "Text/HTML" "Utf-8")).Gives c .nothing ∧
      (r'.call c (.contentTypeCharset "Text/HTML" "Utf-8")).Gives c .nothing := by
  intro r r' c
  have htype : r.contentType = ⟨"Text/HTML", some "utf-8"⟩ := by decide +kernel
  have hheader : r'.headers.first? "content-type" = some r.contentType.canonical := by
    decide +kernel
  have hpass : (r.call c (.contentTypeCharset "Text/HTML" "Utf-8")).Gives c .nothing := by
    refine (r.contentTypeCharset_decides rfl "Text/HTML" "Utf-8").passes.mpr ?_
    rw [htype]
    decide
  obtain ⟨-, hpasses⟩ := canonical_passes
  exact ⟨htype, hheader, hpass,
    hpasses r r' c "Text/HTML" "Utf-8" rfl (by decide) (List.all_eq_true.mp (by decide)) hheader
      hpass⟩

end Response

end Attest
