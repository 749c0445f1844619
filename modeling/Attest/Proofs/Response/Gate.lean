import Attest.Proofs.Http.Decoding
import Attest.Proofs.Response.Decoded

/-!
The charset of a document.

A document must be UTF-8, and its charset says whether it is. This is asked in one way where a
document is wanted and in another where a text is, and the two ways agree: the charsets refused for
documents are those in which some text is not what it would be in UTF-8
(`Response.gate_agrees_with_decoder`).
-/

namespace Attest

namespace Response

variable {r : Response} {c : Chain} {bytes : List UInt8}

/-- Asked for its text, the response with these bytes ends like this. -/
def ReadsAs (r : Response) (c : Chain) (bytes : List UInt8) (result : Except FailureKind String) :
    Prop :=
  ((r.holding bytes).call c .text).Ends c (.subject Subject.noText)
    (result.map fun s => .subject (.text s))

theorem readsAs {result : Except FailureKind String} (hok : c.failed = false)
    (hmedia : r.contentType.mediaType = "text/plain")
    (hread : (readText bytes r.contentType.charset).mapError Failure.kind = result) :
    r.ReadsAs c bytes result := by
  obtain ⟨hwhole, hbytes⟩ := r.holding_whole bytes
  have hfound : (r.holding bytes).visitText.found = readText bytes r.contentType.charset := by
    refine (visitText_of_whole (r := r.holding bytes) hmedia hwhole).trans ?_
    exact congrArg (readText · r.contentType.charset) hbytes
  exact call_ends hok (by rw [visit]) (hfound ▸ hread)

theorem readsAs_iff {result : Except FailureKind String} (hok : c.failed = false)
    (hmedia : r.contentType.mediaType = "text/plain") :
    r.ReadsAs c bytes result ↔
      (readText bytes r.contentType.charset).mapError Failure.kind = result := by
  refine ⟨fun h => ?_, readsAs hok hmedia⟩
  generalize hread : (readText bytes r.contentType.charset).mapError Failure.kind = result'
  have hsame := h.unique (readsAs hok hmedia hread) hok
  -- different texts are different replies
  cases result <;> cases result' <;> cases hsame <;> rfl

/-- A document is refused for its charset where this is the first thing amiss. -/
theorem json_refuses_charset_iff (hok : c.failed = false) :
    (r.call c .json).Ends c (.subject Subject.noValue) (.error .unsupportedCharset) ↔
      r.contentType.mediaType = "application/json" ∧
        ¬ Encoding.utf8.DeclaredBy r.contentType.charset := by
  constructor
  · intro h
    obtain ⟨result, hresult⟩ := r.exists_jsonOutcome
    have hsame := h.unique (hresult.ends hok) hok
    cases hresult with
    | charset hmedia hcharset => exact ⟨hmedia, hcharset⟩
    | mediaType | stream | bytes | document => cases hsame
  · rintro ⟨hmedia, hcharset⟩
    exact JsonOutcome.ends (.charset hmedia hcharset) hok

/-- CORRECT. A content type passes for UTF-8 exactly if all bytes come to the same in its charset as
without one. So a document is refused for its charset exactly if a text with this charset and some
body ends otherwise than the one without a charset. -/
theorem gate_agrees_with_decoder :
    (∀ ct : ContentType, ct.isUtf8 = true ↔
      ∀ bytes, (readText bytes ct.charset).mapError Failure.kind =
        (readText bytes none).mapError Failure.kind) ∧
    ∀ (r t u : Response) (c : Chain), c.failed = false →
      r.contentType.mediaType = "application/json" →
      t.contentType = ⟨"text/plain", r.contentType.charset⟩ →
      u.contentType = ⟨"text/plain", none⟩ →
      ((r.call c .json).Ends c (.subject Subject.noValue) (.error .unsupportedCharset) ↔
        ∃ bytes result result', t.ReadsAs c bytes result ∧ u.ReadsAs c bytes result' ∧
          result ≠ result') := by
  refine ⟨fun ct => ContentType.isUtf8_iff.trans utf8_declaredBy_iff, ?_⟩
  intro r t u c hok hjson ht hu
  have hreads {bytes : List UInt8} {result : Except FailureKind String} :
      t.ReadsAs c bytes result ↔
        (readText bytes r.contentType.charset).mapError Failure.kind = result := by
    rw [readsAs_iff hok (by rw [ht]), ht]
  have hreads' {bytes : List UInt8} {result : Except FailureKind String} :
      u.ReadsAs c bytes result ↔ (readText bytes none).mapError Failure.kind = result := by
    rw [readsAs_iff hok (by rw [hu]), hu]
  rw [json_refuses_charset_iff hok, utf8_declaredBy_iff, not_forall]
  constructor
  · rintro ⟨-, bytes, hne⟩
    generalize hread : (readText bytes r.contentType.charset).mapError Failure.kind = result at hne
    generalize hread' : (readText bytes none).mapError Failure.kind = result' at hne
    exact ⟨bytes, result, result', hreads.mpr hread, hreads'.mpr hread', hne⟩
  · rintro ⟨bytes, result, result', h, h', hne⟩
    rw [← hreads.mp h, ← hreads'.mp h'] at hne
    exact ⟨hjson, bytes, hne⟩

/-- Latin-1 is refused for documents, and texts in it differ from those in UTF-8. -/
theorem gate_agrees_with_decoder_on_latin1 :
    let c : Chain := { reporter := .recording }
    let document := headed "application/json; charset=latin1"
    let text := headed "text/plain; charset=latin1"
    let bare := headed "text/plain"
    c.failed = false ∧ document.contentType.mediaType = "application/json" ∧
      text.contentType = ⟨"text/plain", document.contentType.charset⟩ ∧
      bare.contentType = ⟨"text/plain", none⟩ ∧
      (ContentType.isUtf8 ⟨"text/plain", some "latin1"⟩ = false ∧
        ¬ ∀ bytes, (readText bytes (some "latin1")).mapError Failure.kind =
          (readText bytes none).mapError Failure.kind) ∧
      (document.call c .json).Ends c (.subject Subject.noValue) (.error .unsupportedCharset) ∧
      ∃ bytes result result', text.ReadsAs c bytes result ∧ bare.ReadsAs c bytes result' ∧
        result ≠ result' := by
  intro c document text bare
  have hdocument : document.contentType = ⟨"application/json", some "latin1"⟩ := by decide +kernel
  have htext : text.contentType = ⟨"text/plain", some "latin1"⟩ := by decide +kernel
  have hbare : bare.contentType = ⟨"text/plain", none⟩ := by decide +kernel
  have hmedia : document.contentType.mediaType = "application/json" := by rw [hdocument]
  have hsame : text.contentType = ⟨"text/plain", document.contentType.charset⟩ := by
    rw [htext, hdocument]
  have hother : ContentType.isUtf8 ⟨"text/plain", some "latin1"⟩ = false := by decide
  have hrefused : (document.call c .json).Ends c (.subject Subject.noValue)
      (.error .unsupportedCharset) :=
    (json_refuses_charset_iff rfl).mpr ⟨hmedia, by rw [hdocument]; decide⟩
  obtain ⟨hgate, hcalls⟩ := gate_agrees_with_decoder
  refine ⟨rfl, hmedia, hsame, hbare, ⟨hother, fun hall => ?_⟩, hrefused,
    (hcalls document text bare c rfl hmedia hsame hbare).mp hrefused⟩
  have hpass := (hgate ⟨"text/plain", some "latin1"⟩).mpr hall
  rw [hother] at hpass
  cases hpass

end Response

end Attest
