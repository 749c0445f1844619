import Attest.Proofs.Json.RoundTrip
import Attest.Proofs.Response.Stream
import Attest.Proofs.Session.Deed
import Attest.Proofs.Text.Utf8

/-!
JSON bodies.

A response that announces JSON and whose body is the text of a value gives that value back: its
bytes are the text, the text is read as the value, and the value passes the check that it is the one
it should be (`Session.json_undoes_text`).
-/

namespace Attest

open Text.Utf8 (encodeString decode_encodeString)

theorem ContentType.parse_json :
    ContentType.parse "application/json" = { mediaType := "application/json" } := by
  decide +kernel

/-- Bytes without a charset are read as UTF-8. -/
theorem readText_encodeString (s : String) : readText (encodeString s) none = .ok s := by
  have hencoding : Encoding.ofCharset? "utf-8" = some .utf8 := by decide +kernel
  simp only [readText, Option.getD_none, hencoding, Encoding.decode, decode_encodeString]

namespace Response

variable {r : Response} {c : Chain} {v : Json} {stream : Option (List Chunk)}

/-- Announced as JSON, the body is read as a JSON document. -/
theorem visit_json (ht : r.headers.first? "content-type" = some "application/json") :
    r.visit .json =
      r.body.visit fun bytes => (r.readJson bytes).map fun v => .subject (.value (some v)) := by
  have hheader : r.contentTypeHeader = "application/json" := by
    rw [contentTypeHeader, ht]
    rfl
  have htype : r.contentType = { mediaType := "application/json" } := by
    rw [contentType, hheader, ContentType.parse_json]
  have hverdict : r.contentTypeVerdict "application/json" none = none := by
    simp only [contentTypeVerdict, htype, ne_eq, not_true_eq_false, if_false]
  have hutf8 : r.contentType.isUtf8 = true := by
    rw [htype]
    rfl
  simp only [visit, visitJson, hverdict, hutf8, if_true]
  exact BodyState.visit_map ..

theorem readJson_text (hw : v.Whole) (hs : v.Sorted) (hd : v.depth ≤ Json.depthLimit) :
    r.readJson (encodeString v.text) = .ok v := by
  simp only [readJson, readText_encodeString, Json.read_text hw hs hd]

/-- The call gives the value of which the body is the text. -/
theorem call_json (hok : c.failed = false)
    (ht : r.headers.first? "content-type" = some "application/json") (hb : r.body.OfStream stream)
    (hfault : bodyFault? stream = none) (hbytes : bodyBytes stream = encodeString v.text)
    (hw : v.Whole) (hs : v.Sorted) (hd : v.depth ≤ Json.depthLimit) :
    (r.call c .json).state.1 = c ∧
      (r.call c .json).outcome = .returned (.subject (.value (some v))) ∧
      ∀ q : Reporter, q.received (r.call c .json).events = [] := by
  have hfound : (r.visit .json).found = .ok (.subject (.value (some v))) := by
    rw [visit_json ht, BodyState.visit_found hb, hfault, hbytes]
    split
    next h => simp at h
    next => rw [readJson_text hw hs hd]; rfl
  obtain ⟨hchain, hevents, hout⟩ := Visit.settle_ok hfound hok (r.remains .json)
  rw [r.call_of_ok .json hok]
  refine ⟨hchain, hout, fun q => ?_⟩
  rw [hevents]
  exact r.visit_told q .json

end Response

/-- A value without doubles passes the check that it is itself. -/
theorem Subject.call_equal_self {v : Json} {c : Chain} (hok : c.failed = false) (hw : v.Whole) :
    (Item.subject (.value (some v))).call c (.subject (.checkValue (.equal (.json v)))) =
      some ⟨(c, .subject (.value (some v))), [], .returned .nothing⟩ := by
  have hverdict : (ValueCheck.equal (.json v)).verdict (some v) = none := by
    simp [ValueCheck.verdict, compareWith, comparable, Json.Datum.toJson, ValueCheck.equalVerdict,
      OptJson.equals, Json.eqv_self v hw, require]
  have hrun : asserting ((ValueCheck.equal (.json v)).act (some v)) c = .pure c .nothing := by
    rw [asserting_run ((ValueCheck.equal (.json v)).act_run (some v) c), hverdict, Judgement.settle]
    exact Chain.settle_ok _ _ hok
  simp only [Item.call, act, Option.map_some, hrun, Effect.pure]

namespace Session

/-- CORRECT: of a response that announces JSON, on an OK chain, whose body is the compact text of a
value that is nested in at most 127 levels and has whole numbers of 64 bits only, the document is
that value: the call reports nothing and leaves the chain OK, what it hands out has the value, which
is there even where it is null, and the check that it is the value passes. -/
theorem json_undoes_text (s : Session) (n as as' : String) (id : Nat) (c : Chain) (r : Response)
    (stream : Option (List Chunk)) (v : Json) (ho : s.object? n = some (.item id (.response r)))
    (hc : s.chains[id]? = some c) (hok : c.failed = false)
    (ht : r.headers.first? "content-type" = some "application/json") (hb : r.body.OfStream stream)
    (hfault : bodyFault? stream = none) (hbytes : bodyBytes stream = encodeString v.text)
    (hw : v.Whole) (hs : v.Sorted) (hd : v.depth ≤ 127) :
    let asked := s.step (.call n (.item (.response .json)) as)
    let checked := asked.1.step (.call as (.item (.subject (.checkValue (.equal (.json v))))) as')
    asked.2.ending = .object (.item id (.subject (.value (some v)))) ∧
      asked.2.chain = some c ∧ (∀ q : Reporter, q.received asked.2.events = []) ∧
      asked.1.object? as = some (.item id (.subject (.value (some v)))) ∧
      checked.2 = ⟨.nothing, some c, []⟩ := by
  obtain ⟨hchain, hout, hquiet⟩ := Response.call_json hok ht hb hfault hbytes hw hs hd
  have hkeeps := step_keeps ho hc (.item (.response .json)) as
  have hdeed := Item.deed_of_call (x := .response r) (c := c) (a := .item (.response .json)) rfl rfl
  rw [hdeed] at hkeeps
  have hanswer := hkeeps.answer
  have hnamed := hkeeps.object? as
  have hkept := hkeeps.chains
  simp only [Deed.ofEffect, Deed.answer, hchain, hout, Yield.ofOutcome, Yield.ending] at hanswer
  simp only [Deed.ofEffect, hout, Deed.handedBy, Option.isSome_some, and_self, if_true,
    Option.map_some] at hnamed
  simp only [Deed.ofEffect, hchain, set_same hc] at hkept
  have hcheck := step_keeps hnamed (hkept ▸ hc)
    (.item (.subject (.checkValue (.equal (.json v))))) as'
  rw [Item.deed_of_call rfl (Subject.call_equal_self hok hw)] at hcheck
  intro asked checked
  refine ⟨?_, ?_, ?_, hnamed, hcheck.answer⟩
  · exact congrArg Answer.ending hanswer
  · exact congrArg Answer.chain hanswer
  · intro q
    exact (congrArg (fun a => q.received a.events) hanswer).trans (hquiet q)

/-- A document with characters that must be escaped and with both ends of the whole numbers. -/
def document : Json :=
  .object [("", .null), ("k\n", .array [.integer (-9223372036854775808),
    .integer 18446744073709551615, .string "\x01\"é"]), ("z", .bool true)]

/-- Its text in one chunk. -/
def documentStream : Option (List Chunk) := some [.data (encodeString document.text)]

/-- A response that announces the document and gives it. -/
def announced : Response where
  status := .ok
  headers := ⟨[("content-type", [encodeString "application/json"])]⟩
  body := .unread documentStream

/-- A session with that response. -/
def announcing : Session where
  files := .empty "/"
  chains := [{ reporter := .recording }]
  objects := [("r", .item 0 (.response announced))]
  recording := []

theorem json_undoes_text_of_document :
    announcing.object? "r" = some (.item 0 (.response announced)) ∧
      announcing.chains[0]? = some { reporter := .recording } ∧
      announced.headers.first? "content-type" = some "application/json" ∧
      announced.body.OfStream documentStream ∧ bodyFault? documentStream = none ∧
      bodyBytes documentStream = encodeString document.text ∧ document.Whole ∧ document.Sorted ∧
      document.depth = 2 ∧
      (announcing.step (.call "r" (.item (.response .json)) "j")).2.ending =
        .object (.item 0 (.subject (.value (some document)))) := by
  have ht : announced.headers.first? "content-type" = some "application/json" := by decide +kernel
  have hb : announced.body.OfStream documentStream := BodyState.ofStream_unread documentStream
  obtain ⟨hfault, hbytes⟩ := body_single (encodeString document.text)
  have hw : document.Whole := by
    simp only [document, Json.Whole, Json.WholeItems, Json.WholeMembers]
    decide +kernel
  have hs : document.Sorted := by
    simp only [document, Json.Sorted, Json.SortedItems, Json.SortedMembers, Json.keys, List.map,
      Json.Increasing]
    decide +kernel
  have hd : document.depth = 2 := by decide +kernel
  obtain ⟨hending, -⟩ := json_undoes_text announcing "r" "j" "_" 0 { reporter := .recording }
    announced documentStream document rfl rfl rfl ht hb hfault hbytes hw hs (by rw [hd]; decide)
  exact ⟨rfl, rfl, ht, hb, hfault, hbytes, hw, hs, hd, hending⟩

end Session

end Attest
