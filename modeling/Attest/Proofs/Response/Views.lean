import Attest.Proofs.Response.Decoded
import Attest.Proofs.Subject.Calls
import Attest.Proofs.Text.Bytewise

/-!
Views of one body.

A body that is the bytes of a text can be looked at as bytes and, where the response announces this,
as a text or as the document that the text is. None of these looks changes what the others see
(`Response.Carries.call`). As bytes and as text it passes the same checks, but for its length
(`Response.views_agree`).
-/

namespace Attest

open Text.Utf8 (encodeString)

namespace Response

/-- The response announces the media type in UTF-8, and its body is the text and does not break
off. -/
structure Carries (r : Response) (mediaType text : String) : Prop where
  media : r.contentType.mediaType = mediaType
  charset : Encoding.utf8.DeclaredBy r.contentType.charset
  whole : r.body.fault? = none
  bytes : r.body.bytes = encodeString text

theorem holding_carries {r : Response} (text : String)
    (hcharset : Encoding.utf8.DeclaredBy r.contentType.charset) :
    (r.holding (encodeString text)).Carries r.contentType.mediaType text := by
  obtain ⟨hwhole, hbytes⟩ := r.holding_whole (encodeString text)
  exact ⟨rfl, hcharset, hwhole, hbytes⟩

namespace Carries

variable {r : Response} {c : Chain} {mediaType text : String} {v : Json}

theorem call (h : r.Carries mediaType text) (c : Chain) (k : ResponseCall) :
    (r.call c k).state.2.Carries mediaType text := by
  obtain ⟨hwhole, hbytes⟩ : (r.call c k).state.2.body.fault? = none ∧
      (r.call c k).state.2.body.bytes = r.body.bytes := by
    rcases r.call_kept c k h.whole with hbody | hbody <;> rw [hbody]
    · exact ⟨h.whole, rfl⟩
    · exact ⟨rfl, rfl⟩
  exact ⟨h.media, h.charset, hwhole, hbytes.trans h.bytes⟩

theorem gives_body (h : r.Carries mediaType text) (hok : c.failed = false) :
    (r.call c .body).Gives c (.subject (.body (encodeString text) r.previewLimit)) := by
  refine call_gives hok ?_
  rw [visit, BodyState.visit_found_of_no_fault h.whole, h.bytes]

theorem gives_text (h : r.Carries "text/plain" text) (hok : c.failed = false) :
    (r.call c .text).Gives c (.subject (.text text)) := by
  have hspells : Encoding.utf8.Spells r.body.bytes text := h.bytes
  exact (TextOutcome.text h.media h.whole h.charset hspells).ends hok

theorem gives_json (h : r.Carries "application/json" text) (hok : c.failed = false)
    (hread : Json.read text = .ok v) :
    (r.call c .json).Gives c (.subject (.value (some v))) := by
  have hdocument : IsDocument r.body.bytes v := ⟨text, h.bytes, hread⟩
  exact (JsonOutcome.document h.media h.charset h.whole hdocument).ends hok

end Carries

end Response

/-! ### Checks of bytes and of texts -/

namespace Subject

variable {c : Chain} {bytes needle : List UInt8} {limit k : Nat} {s n : String}
  (hok : c.failed = false)
include hok

theorem body_contains :
    (body bytes limit).Passes [] (.checkBody (.contains needle)) c ↔ needle <:+: bytes :=
  (passes_iff hok rfl rfl).trans Text.containsList_iff_infix

theorem text_contains :
    (text s).Passes [] (.checkText (.contains n)) c ↔ n.toList <:+: s.toList :=
  (passes_iff hok rfl rfl).trans Text.containsList_iff_infix

theorem body_equal : (body bytes limit).Passes [] (.checkBody (.equal needle)) c ↔ bytes = needle :=
  (passes_iff hok rfl rfl).trans beq_iff_eq

theorem text_equal : (text s).Passes [] (.checkText (.equal n)) c ↔ s = n :=
  (passes_iff hok rfl rfl).trans beq_iff_eq

theorem body_empty : (body bytes limit).Passes [] (.checkBody .empty) c ↔ bytes = [] :=
  (passes_iff hok rfl rfl).trans List.isEmpty_iff

theorem text_empty : (text s).Passes [] (.checkText .empty) c ↔ s = "" :=
  (passes_iff hok rfl rfl).trans String.isEmpty_iff

theorem body_length : (body bytes limit).Passes [] (.checkBody (.length k)) c ↔ bytes.length = k :=
  (passes_iff hok rfl rfl).trans beq_iff_eq

theorem text_length : (text s).Passes [] (.checkText (.length k)) c ↔ s.length = k :=
  (passes_iff hok rfl rfl).trans beq_iff_eq

/-- Bytes and text are of one length exactly if the text is ASCII. -/
theorem exists_length_iff :
    (∃ k, (body (encodeString s) limit).Passes [] (.checkBody (.length k)) c ∧
        (text s).Passes [] (.checkText (.length k)) c) ↔
      ∀ ch ∈ s.toList, ch.toNat < 0x80 := by
  simp only [body_length hok, text_length hok]
  rw [← Text.Utf8.length_encode_eq_iff, String.length_toList]
  exact ⟨fun ⟨_, hbytes, htext⟩ => hbytes.trans htext.symm, fun h => ⟨_, h, rfl⟩⟩

end Subject

namespace Response

/-- CORRECT. Of a response that announces a text and whose body is one in UTF-8, calls leave this as
it is, and an OK chain gives the body as bytes and as text. The bytes contain those of a text
exactly if the text contains it, are equal to them exactly if the texts are equal, and are none
exactly if there is no text. Their length is that of the text exactly if this is ASCII. -/
theorem views_agree (r : Response) (c : Chain) (s : String) (hok : c.failed = false)
    (h : r.Carries "text/plain" s) :
    (∀ k, (r.call c k).state.2.Carries "text/plain" s) ∧
    ∃ body text : Subject, (r.call c .body).Gives c (.subject body) ∧
      (r.call c .text).Gives c (.subject text) ∧
      (∀ n : String,
        (body.Passes [] (.checkBody (.contains (encodeString n))) c ↔
          text.Passes [] (.checkText (.contains n)) c) ∧
        (text.Passes [] (.checkText (.contains n)) c ↔ n.toList <:+: s.toList) ∧
        (body.Passes [] (.checkBody (.equal (encodeString n))) c ↔
          text.Passes [] (.checkText (.equal n)) c) ∧
        (text.Passes [] (.checkText (.equal n)) c ↔ s = n)) ∧
      (body.Passes [] (.checkBody .empty) c ↔ text.Passes [] (.checkText .empty) c) ∧
      (text.Passes [] (.checkText .empty) c ↔ s = "") ∧
      ((∃ k, body.Passes [] (.checkBody (.length k)) c ∧
          text.Passes [] (.checkText (.length k)) c) ↔ ∀ ch ∈ s.toList, ch.toNat < 0x80) := by
  refine ⟨fun k => h.call c k, _, _, h.gives_body hok, h.gives_text hok,
    fun n => ⟨?contains, Subject.text_contains hok, ?equal, Subject.text_equal hok⟩, ?empty,
    Subject.text_empty hok, Subject.exists_length_iff hok⟩
  case contains =>
    rw [Subject.body_contains hok, Subject.text_contains hok]
    exact Text.Utf8.encode_infix_iff
  case equal =>
    rw [Subject.body_equal hok, Subject.text_equal hok]
    exact ⟨Text.Utf8.encodeString_injective, congrArg encodeString⟩
  case empty =>
    rw [Subject.body_empty hok, Subject.text_empty hok]
    exact ⟨fun hs => Text.Utf8.encodeString_injective (t := "") hs, fun hs => by rw [hs]; rfl⟩

/-- One word, with a letter that is none of ASCII. -/
def coffee : Response := (headed "text/plain; charset=UTF8").holding (encodeString "café")

/-- Another letter that begins with the same byte is not found. -/
theorem views_agree_on_coffee :
    let c : Chain := { reporter := .recording }
    c.failed = false ∧ coffee.Carries "text/plain" "café" ∧
      (encodeString "é").head? = (encodeString "è").head? ∧
      ∃ body text : Subject, (coffee.call c .body).Gives c (.subject body) ∧
        (coffee.call c .text).Gives c (.subject text) ∧
        body.Passes [] (.checkBody (.contains (encodeString "é"))) c ∧
        ¬ body.Passes [] (.checkBody (.contains (encodeString "è"))) c ∧
        ¬ ∃ k, body.Passes [] (.checkBody (.length k)) c ∧
          text.Passes [] (.checkText (.length k)) c := by
  intro c
  have htype : (headed "text/plain; charset=UTF8").contentType = ⟨"text/plain", some "utf8"⟩ := by
    decide +kernel
  have hcarries : coffee.Carries "text/plain" "café" := by
    have hholds := holding_carries (r := headed "text/plain; charset=UTF8") "café"
      (by rw [htype]; decide)
    rwa [htype] at hholds
  obtain ⟨-, body, text, hbody, htext, hboth, -, -, hlength⟩ :=
    views_agree coffee c "café" rfl hcarries
  obtain ⟨hfound, hoccurs, -⟩ := hboth "é"
  obtain ⟨hfound', hoccurs', -⟩ := hboth "è"
  exact ⟨rfl, hcarries, by decide, body, text, hbody, htext,
    hfound.mpr (hoccurs.mpr (by decide)), fun h => absurd (hoccurs'.mp (hfound'.mp h)) (by decide),
    fun h => absurd (hlength.mp h 'é' (by decide)) (by decide)⟩

end Response

end Attest
