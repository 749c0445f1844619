import Attest.Proofs.Http.Charset
import Attest.Proofs.Response.ContentType

/-!
Bodies as documents and as texts.

What a document needs is, in this order, the media type, the charset, the stream and the bytes, and
a text the media type, the stream, the charset and the bytes: the first of them that is amiss is the
failure (`Response.JsonOutcome`, `Response.TextOutcome`). The body is touched from the stream on.
-/

namespace Attest

/-- The bytes are UTF-8 and a JSON document. -/
def IsDocument (bytes : List UInt8) (v : Json) : Prop :=
  ∃ text, Encoding.utf8.Spells bytes text ∧ Json.read text = .ok v

/-- No bytes are no document. -/
theorem not_isDocument_nil : ¬ ∃ v, IsDocument [] v := by
  rintro ⟨v, text, hspells, hread⟩
  have htext := Text.Utf8.decode_eq_ok_iff.mpr hspells
  -- the text is the empty one, of which nothing is read
  cases htext
  cases hread

namespace Response

/-! ### What is read -/

section Read

variable {bytes : List UInt8} {v : Json}

theorem readJson_eq_ok_iff (r : Response) : r.readJson bytes = .ok v ↔ IsDocument bytes v := by
  rw [readJson, readText_none]
  constructor
  · intro h
    split at h
    next => cases h
    next text htext =>
      split at h
      next w hw =>
        cases h
        exact ⟨text, Encoding.decode_eq_ok_iff.mp htext, hw⟩
      next => cases h
  · rintro ⟨text, hspells, hv⟩
    simp only [Encoding.decode_eq_ok_iff.mpr hspells, hv]

theorem kind_of_readJson (r : Response) {f : Failure} (h : r.readJson bytes = .error f) :
    f.kind = .decodeFailure := by
  rw [readJson, readText_none] at h
  split at h
  next hf =>
    cases h
    exact Encoding.kind_of_decode_error hf
  next =>
    split at h <;> cases h
    rfl

end Read

/-! ### Documents -/

/-- What asking for a document comes to: the first thing that is amiss, or the document. -/
inductive JsonOutcome (r : Response) : Except FailureKind Json → Prop where
  | mediaType (hmedia : r.contentType.mediaType ≠ "application/json") :
      JsonOutcome r (.error .contentTypeMismatch)
  | charset (hmedia : r.contentType.mediaType = "application/json")
      (hcharset : ¬ Encoding.utf8.DeclaredBy r.contentType.charset) :
      JsonOutcome r (.error .unsupportedCharset)
  | stream {message : String} (hmedia : r.contentType.mediaType = "application/json")
      (hcharset : Encoding.utf8.DeclaredBy r.contentType.charset)
      (hfault : r.body.fault? = some message) : JsonOutcome r (.error .bodyReadFailure)
  | bytes (hmedia : r.contentType.mediaType = "application/json")
      (hcharset : Encoding.utf8.DeclaredBy r.contentType.charset) (hwhole : r.body.fault? = none)
      (hbytes : ¬ ∃ v, IsDocument r.body.bytes v) : JsonOutcome r (.error .decodeFailure)
  | document {v : Json} (hmedia : r.contentType.mediaType = "application/json")
      (hcharset : Encoding.utf8.DeclaredBy r.contentType.charset) (hwhole : r.body.fault? = none)
      (hdocument : IsDocument r.body.bytes v) : JsonOutcome r (.ok v)

theorem exists_jsonOutcome (r : Response) : ∃ result, JsonOutcome r result := by
  by_cases hmedia : r.contentType.mediaType = "application/json"
  · by_cases hcharset : Encoding.utf8.DeclaredBy r.contentType.charset
    · cases hfault : r.body.fault? with
      | some message => exact ⟨_, .stream hmedia hcharset hfault⟩
      | none =>
        by_cases hbytes : ∃ v, IsDocument r.body.bytes v
        · obtain ⟨v, hv⟩ := hbytes
          exact ⟨_, .document hmedia hcharset hfault hv⟩
        · exact ⟨_, .bytes hmedia hcharset hfault hbytes⟩
    · exact ⟨_, .charset hmedia hcharset⟩
  · exact ⟨_, .mediaType hmedia⟩

/-- Where a document in UTF-8 is announced, it is what the bytes come to. -/
theorem visitJson_of_announced {r : Response}
    (hmedia : r.contentType.mediaType = "application/json")
    (hcharset : Encoding.utf8.DeclaredBy r.contentType.charset) :
    r.visitJson = r.body.visit r.readJson := by
  simp only [visitJson, contentTypeVerdict_eq_none_iff.mpr hmedia,
    ContentType.isUtf8_iff.mpr hcharset, if_true]

theorem visitJson_found {r : Response} {result : Except FailureKind Json}
    (h : JsonOutcome r result) : r.visitJson.found.mapError Failure.kind = result := by
  -- one case for each thing amiss, in the order in which the call looks at them
  cases h with
  | mediaType hmedia =>
    obtain ⟨f, hf, hkind⟩ := exists_contentTypeVerdict hmedia
    simp only [visitJson, hf]
    exact congrArg Except.error hkind
  | charset hmedia hcharset =>
    have hother : r.contentType.isUtf8 = false :=
      Bool.eq_false_iff.mpr (mt ContentType.isUtf8_iff.mp hcharset)
    simp only [visitJson, contentTypeVerdict_eq_none_iff.mpr hmedia, hother]
    rfl
  | stream hmedia hcharset hfault =>
    rw [visitJson_of_announced hmedia hcharset, BodyState.visit_found_of_fault hfault]
    rfl
  | bytes hmedia hcharset hwhole hbytes =>
    rw [visitJson_of_announced hmedia hcharset, BodyState.visit_found_of_no_fault hwhole]
    cases hread : r.readJson r.body.bytes with
    | ok v => exact absurd ⟨v, r.readJson_eq_ok_iff.mp hread⟩ hbytes
    | error f => exact congrArg Except.error (r.kind_of_readJson hread)
  | document hmedia hcharset hwhole hdocument =>
    rw [visitJson_of_announced hmedia hcharset, BodyState.visit_found_of_no_fault hwhole,
      r.readJson_eq_ok_iff.mpr hdocument]
    rfl

theorem JsonOutcome.ends {r : Response} {c : Chain} {result : Except FailureKind Json}
    (h : JsonOutcome r result) (hok : c.failed = false) :
    (r.call c .json).Ends c (.subject Subject.noValue)
      (result.map fun v => .subject (.value (some v))) :=
  call_ends hok (by rw [visit]) (visitJson_found h)

/-- Where the content type is amiss the body is left alone. -/
theorem exists_visitJson_untouched {r : Response}
    (h : r.contentType.mediaType ≠ "application/json" ∨
      ¬ Encoding.utf8.DeclaredBy r.contentType.charset) :
    ∃ f, r.visitJson = r.body.untouched (.error f) := by
  cases hverdict : r.contentTypeVerdict "application/json" none with
  | some f => exact ⟨f, by simp only [visitJson, hverdict]⟩
  | none =>
    have hmedia := contentTypeVerdict_eq_none_iff.mp hverdict
    have hcharset := h.resolve_left (not_not_intro hmedia)
    have hother : r.contentType.isUtf8 = false :=
      Bool.eq_false_iff.mpr (mt ContentType.isUtf8_iff.mp hcharset)
    refine ⟨charsetRefused r.contentType.charsetText, ?_⟩
    simp only [visitJson, hverdict, hother]
    rfl

/-- CORRECT. On an OK chain, asking for a document comes to what `JsonOutcome` says, which is
something for every response; an empty body is no document. Where the media type or the charset is
amiss the response stays as it is. The chain is failed afterwards exactly if what is handed out is
no document. -/
theorem json_outcome (r : Response) (c : Chain) (hok : c.failed = false) :
    (∃ result, JsonOutcome r result) ∧ (¬ ∃ v, IsDocument [] v) ∧
    (∀ result, JsonOutcome r result →
      (r.call c .json).Ends c (.subject Subject.noValue)
        (result.map fun v => .subject (.value (some v)))) ∧
    (r.contentType.mediaType ≠ "application/json" ∨
        ¬ Encoding.utf8.DeclaredBy r.contentType.charset → (r.call c .json).state.2 = r) ∧
    (∀ w, (r.call c .json).outcome = .returned (.subject (.value w)) →
      (w = none ↔ (r.call c .json).state.1.failed = true)) := by
  have hends (result : Except FailureKind Json) (h : JsonOutcome r result) :
      (r.call c .json).Ends c (.subject Subject.noValue)
        (result.map fun v => .subject (.value (some v))) :=
    call_ends hok (by rw [visit]) (visitJson_found h)
  refine ⟨r.exists_jsonOutcome, not_isDocument_nil, hends, ?_, ?_⟩
  · intro hamiss
    obtain ⟨f, hf⟩ := exists_visitJson_untouched hamiss
    exact call_untouched hok (by rw [visit, hf])
  · intro w hw
    obtain ⟨result, hresult⟩ := r.exists_jsonOutcome
    have hend := hends result hresult
    cases result with
    | ok v =>
      have hgives : (r.call c .json).Gives c (.subject (.value (some v))) := hend
      rw [hgives.outcome] at hw
      cases hw
      simp [hgives.chain, hok]
    | error kind =>
      obtain ⟨f, -, hfails⟩ := hend
      have hnone := hfails.of_returned hw
      cases hnone
      simp [hfails.chain]

/-- A response that announces a document in another charset, and whose stream breaks off. -/
def twiceAmiss : Response :=
  { headed "application/json; charset=latin1" with body := .unread (some [.broken "reset"]) }

/-- Of two things amiss the charset is the failure, and the stream is not read. -/
theorem json_outcome_of_twice_amiss :
    let c : Chain := { reporter := .recording }
    c.failed = false ∧ JsonOutcome twiceAmiss (.error .unsupportedCharset) ∧
      twiceAmiss.body.fault? = some "reset" ∧
      (twiceAmiss.call c .json).Ends c (.subject Subject.noValue) (.error .unsupportedCharset) ∧
      (twiceAmiss.call c .json).state.2 = twiceAmiss := by
  intro c
  have htype : twiceAmiss.contentType = ⟨"application/json", some "latin1"⟩ := by decide +kernel
  have hcharset : ¬ Encoding.utf8.DeclaredBy twiceAmiss.contentType.charset := by
    rw [htype]
    decide
  have houtcome : JsonOutcome twiceAmiss (.error .unsupportedCharset) :=
    .charset (by rw [htype]) hcharset
  obtain ⟨-, -, hends, huntouched, -⟩ := json_outcome twiceAmiss c rfl
  exact ⟨rfl, houtcome, rfl, hends _ houtcome, huntouched (.inr hcharset)⟩

/-- Where a report panics, no document and no placeholder is handed out. -/
theorem json_lost_to_panic :
    ¬ ∀ (r : Response) (c : Chain), c.failed = false →
      ∃ w, (r.call c .json).outcome = .returned (.subject (.value w)) ∧
        (w = none ↔ (r.call c .json).state.1.failed = true) := by
  intro h
  obtain ⟨w, hw, -⟩ := h ⟨.ok, .empty, .unread none, defaultPreview⟩ { reporter := .panic } rfl
  cases hw

/-! ### Texts -/

/-- What asking for a text comes to: the first thing that is amiss, or the text. The stream comes
before the charset here, and any encoding will do. -/
inductive TextOutcome (r : Response) : Except FailureKind String → Prop where
  | mediaType (hmedia : r.contentType.mediaType ≠ "text/plain") :
      TextOutcome r (.error .contentTypeMismatch)
  | stream {message : String} (hmedia : r.contentType.mediaType = "text/plain")
      (hfault : r.body.fault? = some message) : TextOutcome r (.error .bodyReadFailure)
  | charset (hmedia : r.contentType.mediaType = "text/plain") (hwhole : r.body.fault? = none)
      (hcharset : ¬ ∃ e : Encoding, e.DeclaredBy r.contentType.charset) :
      TextOutcome r (.error .unsupportedCharset)
  | bytes {e : Encoding} (hmedia : r.contentType.mediaType = "text/plain")
      (hwhole : r.body.fault? = none) (hcharset : e.DeclaredBy r.contentType.charset)
      (hbytes : ¬ ∃ text, e.Spells r.body.bytes text) : TextOutcome r (.error .decodeFailure)
  | text {e : Encoding} {text : String} (hmedia : r.contentType.mediaType = "text/plain")
      (hwhole : r.body.fault? = none) (hcharset : e.DeclaredBy r.contentType.charset)
      (htext : e.Spells r.body.bytes text) : TextOutcome r (.ok text)

theorem exists_textOutcome (r : Response) : ∃ result, TextOutcome r result := by
  by_cases hmedia : r.contentType.mediaType = "text/plain"
  · cases hfault : r.body.fault? with
    | some message => exact ⟨_, .stream hmedia hfault⟩
    | none =>
      by_cases hcharset : ∃ e : Encoding, e.DeclaredBy r.contentType.charset
      · obtain ⟨e, he⟩ := hcharset
        by_cases hbytes : ∃ text, e.Spells r.body.bytes text
        · obtain ⟨text, htext⟩ := hbytes
          exact ⟨_, .text hmedia hfault he htext⟩
        · exact ⟨_, .bytes hmedia hfault he hbytes⟩
      · exact ⟨_, .charset hmedia hfault hcharset⟩
  · exact ⟨_, .mediaType hmedia⟩

/-- Where a text is announced, it is what the bytes come to in the charset. -/
theorem visitText_of_whole {r : Response} (hmedia : r.contentType.mediaType = "text/plain")
    (hwhole : r.body.fault? = none) :
    r.visitText.found = readText r.body.bytes r.contentType.charset := by
  simp only [visitText, contentTypeVerdict_eq_none_iff.mpr hmedia,
    BodyState.visit_found_of_no_fault hwhole]

theorem visitText_found {r : Response} {result : Except FailureKind String}
    (h : TextOutcome r result) : r.visitText.found.mapError Failure.kind = result := by
  have hvisit (hmedia : r.contentType.mediaType = "text/plain") :
      r.visitText = r.body.visit fun bytes => readText bytes r.contentType.charset := by
    simp only [visitText, contentTypeVerdict_eq_none_iff.mpr hmedia]
  cases h with
  | mediaType hmedia =>
    obtain ⟨f, hf, hkind⟩ := exists_contentTypeVerdict hmedia
    simp only [visitText, hf]
    exact congrArg Except.error hkind
  | stream hmedia hfault =>
    rw [hvisit hmedia, BodyState.visit_found_of_fault hfault]
    rfl
  | charset hmedia hwhole hcharset =>
    obtain ⟨f, hf, hkind⟩ := readText_of_not_declaredBy hcharset r.body.bytes
    rw [hvisit hmedia, BodyState.visit_found_of_no_fault hwhole, hf]
    exact congrArg Except.error hkind
  | bytes hmedia hwhole hcharset hbytes =>
    obtain ⟨f, hf, hkind⟩ := Encoding.decode_of_not_spells hbytes
    rw [hvisit hmedia, BodyState.visit_found_of_no_fault hwhole, readText_of_declaredBy hcharset,
      hf]
    exact congrArg Except.error hkind
  | text hmedia hwhole hcharset htext =>
    rw [hvisit hmedia, BodyState.visit_found_of_no_fault hwhole, readText_of_declaredBy hcharset,
      Encoding.decode_eq_ok_iff.mpr htext]
    rfl

theorem TextOutcome.ends {r : Response} {c : Chain} {result : Except FailureKind String}
    (h : TextOutcome r result) (hok : c.failed = false) :
    (r.call c .text).Ends c (.subject Subject.noText) (result.map fun s => .subject (.text s)) :=
  call_ends hok (by rw [visit]) (visitText_found h)

theorem exists_visitText_untouched {r : Response}
    (h : r.contentType.mediaType ≠ "text/plain") :
    ∃ f, r.visitText = r.body.untouched (.error f) := by
  obtain ⟨f, hf, -⟩ := exists_contentTypeVerdict h
  exact ⟨f, by simp only [visitText, hf]⟩

/-- CORRECT. On an OK chain, asking for a text comes to what `TextOutcome` says, which is something
for every response. Where the media type is amiss the response stays as it is. Where the call fails
and hands out something, this is the empty text. -/
theorem text_outcome (r : Response) (c : Chain) (hok : c.failed = false) :
    (∃ result, TextOutcome r result) ∧
    (∀ result, TextOutcome r result →
      (r.call c .text).Ends c (.subject Subject.noText) (result.map fun s => .subject (.text s))) ∧
    (r.contentType.mediaType ≠ "text/plain" → (r.call c .text).state.2 = r) ∧
    ((r.call c .text).state.1.failed = true →
      ∀ a, (r.call c .text).outcome = .returned a → a = .subject (.text "")) := by
  have hends (result : Except FailureKind String) (h : TextOutcome r result) :
      (r.call c .text).Ends c (.subject Subject.noText)
        (result.map fun s => .subject (.text s)) :=
    call_ends hok (by rw [visit]) (visitText_found h)
  refine ⟨r.exists_textOutcome, hends, ?_, ?_⟩
  · intro hmedia
    obtain ⟨f, hf⟩ := exists_visitText_untouched hmedia
    exact call_untouched hok (by rw [visit, hf])
  · intro hfailed a ha
    obtain ⟨result, hresult⟩ := r.exists_textOutcome
    exact (hends result hresult).of_returned hok hfailed ha

/-- A response that announces a text in a charset that is none, and whose bytes are no UTF-8. -/
def unreadable : Response :=
  { headed "text/plain; charset=koi8-r" with body := .unread (some [.data [0xFF]]) }

/-- Of two things amiss the charset is the failure. -/
theorem text_outcome_of_unreadable :
    let c : Chain := { reporter := .recording }
    c.failed = false ∧ TextOutcome unreadable (.error .unsupportedCharset) ∧
      unreadable.body.bytes = [0xFF] ∧
      (unreadable.call c .text).Ends c (.subject Subject.noText) (.error .unsupportedCharset) := by
  intro c
  have htype : unreadable.contentType = ⟨"text/plain", some "koi8-r"⟩ := by decide +kernel
  have houtcome : TextOutcome unreadable (.error .unsupportedCharset) := by
    refine .charset (by rw [htype]) rfl ?_
    rw [htype]
    rintro ⟨e, he⟩
    cases e <;> exact absurd he (by decide)
  obtain ⟨-, hends, -, -⟩ := text_outcome unreadable c rfl
  exact ⟨rfl, houtcome, rfl, hends _ houtcome⟩

/-- Where a report panics, not even the empty text is handed out. -/
theorem text_lost_to_panic :
    ¬ ∀ (r : Response) (c : Chain), c.failed = false → (r.call c .text).state.1.failed = true →
      (r.call c .text).outcome = .returned (.subject (.text "")) := by
  intro h
  cases h ⟨.ok, .empty, .unread none, defaultPreview⟩ { reporter := .panic } rfl rfl

end Response

end Attest
