import Attest.Proofs.Response.Decoded
import Attest.Proofs.Response.Document
import Attest.Proofs.Response.NoContent
import Attest.Proofs.Subject.Calls
import Attest.Proofs.Text.Cut

/-!
Quotations of texts.

A message that quotes the bytes of a text shows the text up to its limit, which counts bytes
(`previews_show_beginnings`). Where the limit lies inside a character the quotation ends with the
replacement character in its place; nothing else is shown that does not stand there in the text.
-/

namespace Attest

open Text.Utf8 (encode encodeString Cut)

/-- The characters in quotes, and how many bytes of the text were left out. -/
def quotation (s : String) (limit : Nat) (shown : List Char) : String :=
  Text.quote (String.ofList shown) ++ leftOut ((encodeString s).length - limit)

theorem excerpt_of_cut {s : String} {limit : Nat} {shown : List Char}
    (h : Cut s.toList limit shown) :
    excerpt limit (encodeString s) = quotation s limit shown := by
  rw [excerpt, quotation, encodeString, Text.Utf8.decodeLossy_take h]

/-! ### Messages -/

/-- Where failures quote the text that the bytes of a body are, they do it so. -/
structure QuotedAs (s : String) (limit : Nat) (q : String) : Prop where
  empty : ∀ c : Chain, c.failed = false → s ≠ "" →
    (Subject.body (encodeString s) limit).FailsWith [] (.checkBody .empty) c
      (.value ("expected empty body, but got:\n  " ++ q))
  equal : ∀ (c : Chain) (expected : List UInt8), c.failed = false → encodeString s ≠ expected →
    (Subject.body (encodeString s) limit).FailsWith [] (.checkBody (.equal expected)) c
      (.value ("expected body equal to:\n  " ++ preview expected limit
        ++ "\n\nbut got:\n  " ++ q))
  contains : ∀ (c : Chain) (needle : List UInt8), c.failed = false →
    ¬ needle <:+: encodeString s →
    (Subject.body (encodeString s) limit).FailsWith [] (.checkBody (.contains needle)) c
      (.value ("expected body containing:\n  " ++ preview needle limit
        ++ "\n\nbut got:\n  " ++ q))
  noContent : ∀ (r : Response) (c : Chain), c.failed = false → r.body.fault? = none →
    r.body.bytes = encodeString s → r.previewLimit = limit → s ≠ "" →
    ∃ before, (r.call c .noContent).Fails c
      ⟨.contentAbsenceViolation, before ++ ("expected empty body, but got:\n  " ++ q)⟩ .nothing
  json : ∀ (r : Response) (c : Chain) (e : Json.ReadError), c.failed = false →
    r.contentType.mediaType = "application/json" →
    Encoding.utf8.DeclaredBy r.contentType.charset → r.body.fault? = none →
    r.body.bytes = encodeString s → r.previewLimit = limit → Json.read s = .error e →
    (r.call c .json).Fails c
      ⟨.decodeFailure, "can't decode body as JSON: " ++ e.message ++ "\n\nbody:\n  " ++ q⟩
      (.subject Subject.noValue)

section Messages

variable {s : String} {limit : Nat} {q : String} {c : Chain} {k : BodyCheck} {message : String}

theorem encodeString_eq_nil_iff : encodeString s = [] ↔ s = "" := by
  constructor
  · intro h
    have hempty : encodeString s = encodeString "" := h
    exact Text.Utf8.encodeString_injective hempty
  · rintro rfl
    rfl

/-- A check that quotes bytes and does not hold fails with its message. -/
theorem failsWith_complaint {bytes : List UInt8} (hok : c.failed = false)
    (hk : k.complaint? limit bytes = some message) (h : ¬ k.Holds bytes) :
    (Subject.body bytes limit).FailsWith [] (.checkBody k) c (.value message) := by
  refine (Subject.failsWith_iff hok rfl rfl).mpr ?_
  simp only [Judgement.found, BodyCheck.verdict_of_not_holds hk h, Verdict.found]

/-- The paragraph on a body stands at the end. -/
theorem call_noContent_fails {r : Response} (hok : c.failed = false) (hwhole : r.body.fault? = none)
    (hbody : r.body.bytes ≠ []) :
    ∃ before, (r.call c .noContent).Fails c
      ⟨.contentAbsenceViolation, before ++ Response.bodyParagraph r.previewLimit r.body.bytes⟩
      .nothing := by
  by_cases hheader : r.contentTypeHeader = ""
  · refine ⟨"", ?_⟩
    rw [String.empty_append]
    exact Response.call_noContent_endsWith hok (.body hwhole hheader hbody)
  · exact ⟨_, Response.call_noContent_endsWith hok (.both hwhole hheader hbody)⟩

/-- A text that is no document is quoted when it should be one. -/
theorem call_json_fails {r : Response} {e : Json.ReadError} (hok : c.failed = false)
    (hmedia : r.contentType.mediaType = "application/json")
    (hcharset : Encoding.utf8.DeclaredBy r.contentType.charset) (hwhole : r.body.fault? = none)
    (hbytes : r.body.bytes = encodeString s) (hread : Json.read s = .error e) :
    (r.call c .json).Fails c
      ⟨.decodeFailure, "can't decode body as JSON: " ++ e.message ++ "\n\nbody:\n  "
        ++ excerpt r.previewLimit (encodeString s)⟩
      (.subject Subject.noValue) := by
  refine Response.call_fails hok ?_
  rw [Response.visit, Response.visitJson_of_announced hmedia hcharset, Visit.map,
    BodyState.visit_found_of_no_fault hwhole, hbytes, Response.readJson, readText_encodeString]
  simp only [hread, preview_eq]
  rfl

/-- All these messages quote the body as an excerpt of its bytes. -/
theorem quotedAs_excerpt (s : String) (limit : Nat) :
    QuotedAs s limit (excerpt limit (encodeString s)) where
  empty c hok hs := failsWith_complaint hok rfl (mt encodeString_eq_nil_iff.mp hs)
  equal c expected hok hne := by
    rw [preview_eq]
    exact failsWith_complaint hok rfl hne
  contains c needle hok hnot := by
    rw [preview_eq]
    exact failsWith_complaint hok rfl hnot
  noContent r c hok hwhole hbytes hlimit hs := by
    have hbody : r.body.bytes ≠ [] := by
      rw [hbytes]
      exact mt encodeString_eq_nil_iff.mp hs
    have hfails := call_noContent_fails hok hwhole hbody
    rwa [hbytes, hlimit] at hfails
  json r c e hok hmedia hcharset hwhole hbytes hlimit hread := by
    have hfails := call_json_fails hok hmedia hcharset hwhole hbytes hread
    rwa [hlimit] at hfails

end Messages

/-! ### What is shown of a text -/

/-- CORRECT. Of every text and for every limit, which counts bytes, there is something to show, and
this is what messages quote, followed by how many bytes they left out. Every character shown is the
one at its place in the text, but possibly the last, which is the replacement character where the
limit lies inside a character. A limit between two characters shows just those before it, and one
that is not exceeded shows all. The checks that a body is empty, equals or contains something, and
the calls for no content and for a document, quote the bytes of the text so. -/
theorem previews_show_beginnings (s : String) (limit : Nat) :
    (∃ shown, Cut s.toList limit shown) ∧
    ∀ shown, Cut s.toList limit shown →
      preview (encodeString s) limit = quotation s limit shown ∧
      (∀ i d, shown[i]? = some d →
        s.toList[i]? = some d ∨ i + 1 = shown.length ∧ d = '\uFFFD' ∧
          ∃ before c after, s.toList = before ++ c :: after ∧ (encode before).length < limit ∧
            limit < (encode before).length + c.utf8Size) ∧
      (∀ before after, s.toList = before ++ after → limit = (encode before).length →
        shown = before) ∧
      ((encodeString s).length ≤ limit → shown = s.toList) ∧
      QuotedAs s limit (quotation s limit shown) := by
  refine ⟨Text.Utf8.exists_cut s.toList limit, fun shown hshown => ?_⟩
  have hbetween (before after : List Char) (hs : s.toList = before ++ after)
      (hlimit : limit = (encode before).length) : shown = before :=
    hshown.unique (.between hs hlimit)
  refine ⟨?_, hshown.seen, hbetween, ?_, ?_⟩
  · rw [preview_eq, excerpt_of_cut hshown]
  · intro hall
    rcases Nat.eq_or_lt_of_le hall with hend | hbeyond
    · exact hbetween s.toList [] (List.append_nil _).symm hend.symm
    · exact hshown.unique (.beyond hbeyond)
  · rw [← excerpt_of_cut hshown]
    exact quotedAs_excerpt s limit

/-- Two letters of which the second takes two bytes, and a limit in the middle of it. -/
theorem previews_show_beginnings_of_two :
    let c : Chain := { reporter := .recording }
    Cut "aé".toList 2 ['a', '\uFFFD'] ∧ c.failed = false ∧ "aé" ≠ "" ∧
      (Subject.body (encodeString "aé") 2).FailsWith [] (.checkBody .empty) c
        (.value ("expected empty body, but got:\n  " ++
          (Text.quote "a\uFFFD" ++ "... (1 more bytes)"))) := by
  intro c
  have hletters : "aé".toList = ['a'] ++ 'é' :: [] := rfl
  have hcut : Cut "aé".toList 2 ['a', '\uFFFD'] := .inside hletters (by decide) (by decide)
  have hne : "aé" ≠ "" := by decide
  obtain ⟨-, -, -, -, hquoted⟩ := (previews_show_beginnings "aé" 2).2 _ hcut
  exact ⟨hcut, rfl, hne, hquoted.empty c rfl hne⟩

/-- A letter of two bytes of which one is quoted: what is shown is neither the letter nor nothing. -/
theorem preview_shows_no_beginning :
    ¬ ∀ (s : String) (limit : Nat), ∃ before : List Char, before <+: s.toList ∧
      preview (encodeString s) limit = quotation s limit before := by
  intro h
  obtain ⟨before, hbefore, hpreview⟩ := h "é" 1
  have hletter : "é".toList = [] ++ 'é' :: [] := rfl
  have hcut : Cut "é".toList 1 ['\uFFFD'] := .inside hletter (by decide) (by decide)
  rw [preview_eq, excerpt_of_cut hcut] at hpreview
  have hescape : Text.escape ['\uFFFD'] = Text.escape before := by
    have hquoted : String.ofList (Text.escape ['\uFFFD']) = String.ofList (Text.escape before) := by
      simpa [quotation, Text.quote] using hpreview
    exact String.ofList_injective hquoted
  -- whether they are printable or not, the two are quoted in different ways
  have hreplaced : Text.escape ['\uFFFD'] =
      if Unicode.isPrintable '\uFFFD' then ['\uFFFD']
      else ['\\', 'u', '{', 'f', 'f', 'f', 'd', '}'] := List.append_nil _
  have hwritten : Text.escape ['é'] =
      if Unicode.isPrintable 'é' then ['é'] else ['\\', 'u', '{', 'e', '9', '}'] :=
    List.append_nil _
  have hletters : before <+: ['é'] := hbefore
  rcases List.prefix_cons_iff.mp hletters with rfl | ⟨rest, rfl, hrest⟩
  · rw [hreplaced] at hescape
    split at hescape <;> cases hescape
  · obtain rfl := List.prefix_nil.mp hrest
    rw [hreplaced, hwritten] at hescape
    split at hescape <;> split at hescape <;> cases hescape

end Attest
