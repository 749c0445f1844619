import Attest.Proofs.Response.ContentType
import Attest.Proofs.Subject.Excerpt

/-!
Responses that should have no content.

There is no content where the first value of the content type header and the body are both empty.
Where the stream breaks off, this is the failure, whatever the header is. Else the failure has a
paragraph on each of the two that is not empty, the header first (`Response.NoContentOutcome`).
-/

namespace Attest

namespace Effect

variable {σ α : Type}

/-- The call gives the result, or fails with the failure. -/
def EndsWith (e : Effect (Chain × σ) α) (c : Chain) (placeholder : α) : Except Failure α → Prop
  | .ok a => e.Gives c a
  | .error f => e.Fails c f placeholder

theorem EndsWith.failed_eq_false_iff {e : Effect (Chain × σ) α} {c : Chain} {p : α}
    {result : Except Failure α} (h : e.EndsWith c p result) (hok : c.failed = false) :
    e.state.1.failed = false ↔ ∃ a, result = .ok a := by
  cases result with
  | ok a => simp [Gives.chain h, hok]
  | error f => simp [Fails.chain h]

end Effect

namespace BodyState

variable {stream : Option (List Chunk)} {b : BodyState}

/-- However often it has been read, a body has the bytes of its stream. -/
theorem bytes_of_ofStream (h : b.OfStream stream) : b.bytes = bodyBytes stream := by
  match b with
  | .kept bytes => exact h
  | .unread none => exact (bodyBytes_of_unread h).symm
  | .unread (some cs) =>
    obtain rfl : stream = some cs := h
    rfl

/-- A body breaks off where its stream does, as long as this is there to be read. -/
theorem fault?_of_ofStream (h : b.OfStream stream) :
    b.fault? = if b.hasStream = true then bodyFault? stream else none := by
  match b with
  | .kept bytes | .unread none => rfl
  | .unread (some cs) =>
    obtain rfl : stream = some cs := h
    rfl

/-- A stream without bytes is read like one that is not there, but that the log tells of it. -/
theorem visit_of_empty {α : Type} {cs : List Chunk} (h : contents cs = .ok [])
    (goOn : List UInt8 → Except Failure α) :
    (unread (some cs)).visit goOn =
      { (unread none).visit goOn with events := [.logged .debug "read 0 body bytes"] } := by
  simp only [visit, h]
  rfl

end BodyState

namespace Response

variable {r : Response} {c : Chain}

theorem call_endsWith (r : Response) (k : ResponseCall) (hok : c.failed = false) :
    (r.call c k).EndsWith c (r.remains k) (r.visit k).found := by
  cases h : (r.visit k).found with
  | ok a => exact call_gives hok h
  | error f => exact call_fails hok h

/-! ### What is said of the content -/

/-- What a failure says of a header that is not empty. -/
def headerParagraph (header : String) : String :=
  "expected missing or empty \"Content-Type\" header, but got:\n  " ++ Text.quote header

/-- What a failure says of a body that is not empty. -/
def bodyParagraph (limit : Nat) (bytes : List UInt8) : String :=
  "expected empty body, but got:\n  " ++ excerpt limit bytes

/-- What asking for no content comes to. -/
inductive NoContentOutcome (r : Response) : Except Failure Reply → Prop where
  | stream {message : String} (hfault : r.body.fault? = some message) :
      NoContentOutcome r (.error (BodyState.readFailure message))
  | nothing (hwhole : r.body.fault? = none) (hheader : r.contentTypeHeader = "")
      (hbody : r.body.bytes = []) : NoContentOutcome r (.ok .nothing)
  | header (hwhole : r.body.fault? = none) (hheader : r.contentTypeHeader ≠ "")
      (hbody : r.body.bytes = []) :
      NoContentOutcome r (.error ⟨.contentAbsenceViolation, headerParagraph r.contentTypeHeader⟩)
  | body (hwhole : r.body.fault? = none) (hheader : r.contentTypeHeader = "")
      (hbody : r.body.bytes ≠ []) :
      NoContentOutcome r
        (.error ⟨.contentAbsenceViolation, bodyParagraph r.previewLimit r.body.bytes⟩)
  | both (hwhole : r.body.fault? = none) (hheader : r.contentTypeHeader ≠ "")
      (hbody : r.body.bytes ≠ []) :
      NoContentOutcome r (.error ⟨.contentAbsenceViolation,
        headerParagraph r.contentTypeHeader ++ "\n\n" ++
          bodyParagraph r.previewLimit r.body.bytes⟩)

theorem exists_noContentOutcome (r : Response) : ∃ result, NoContentOutcome r result := by
  cases hfault : r.body.fault? with
  | some message => exact ⟨_, .stream hfault⟩
  | none =>
    by_cases hheader : r.contentTypeHeader = "" <;> by_cases hbody : r.body.bytes = []
    · exact ⟨_, .nothing hfault hheader hbody⟩
    · exact ⟨_, .body hfault hheader hbody⟩
    · exact ⟨_, .header hfault hheader hbody⟩
    · exact ⟨_, .both hfault hheader hbody⟩

/-- There is a problem for each of the two that is not empty. -/
theorem noContentProblems_eq (r : Response) (bytes : List UInt8) :
    r.noContentProblems bytes =
      (if r.contentTypeHeader = "" then [] else [headerParagraph r.contentTypeHeader]) ++
        if bytes = [] then [] else [bodyParagraph r.previewLimit bytes] := by
  unfold noContentProblems headerParagraph bodyParagraph
  simp only [preview_eq]
  congr 1
  · exact if_congr String.isEmpty_iff rfl rfl
  · exact if_congr List.isEmpty_iff rfl rfl

theorem visit_noContent_found {result : Except Failure Reply} (h : NoContentOutcome r result) :
    (r.visit .noContent).found = result := by
  have hvisit : r.visit .noContent = r.body.visit r.noContentFound := rfl
  have hfound (hwhole : r.body.fault? = none) :
      (r.visit .noContent).found = r.noContentFound r.body.bytes := by
    rw [hvisit, BodyState.visit_found_of_no_fault hwhole]
  have hone (problem : String) :
      unwantedContent [problem] = ⟨.contentAbsenceViolation, problem⟩ := by
    simp [unwantedContent]
  have htwo (problem problem' : String) : unwantedContent [problem, problem'] =
      ⟨.contentAbsenceViolation, problem ++ "\n\n" ++ problem'⟩ := by
    simp [unwantedContent]
  cases h with
  | stream hfault => rw [hvisit, BodyState.visit_found_of_fault hfault]
  | nothing hwhole hheader hbody =>
    simp only [hfound hwhole, noContentFound, noContentProblems_eq, if_pos hheader, if_pos hbody,
      List.nil_append]
  | header hwhole hheader hbody =>
    simp only [hfound hwhole, noContentFound, noContentProblems_eq, if_neg hheader, if_pos hbody,
      List.append_nil, hone]
  | body hwhole hheader hbody =>
    simp only [hfound hwhole, noContentFound, noContentProblems_eq, if_pos hheader, if_neg hbody,
      List.nil_append, hone]
  | both hwhole hheader hbody =>
    simp only [hfound hwhole, noContentFound, noContentProblems_eq, if_neg hheader, if_neg hbody,
      List.singleton_append, htwo]

/-- Asking for no content comes to what there is of it. -/
theorem call_noContent_endsWith {result : Except Failure Reply} (hok : c.failed = false)
    (h : NoContentOutcome r result) : (r.call c .noContent).EndsWith c .nothing result := by
  rw [← visit_noContent_found h]
  exact r.call_endsWith .noContent hok

/-- Without a body the call does what it does with a stream that gives no bytes, but that the log
does not tell of reading. -/
theorem call_noContent_of_empty {cs : List Chunk} (h : contents cs = .ok []) (r : Response)
    (hok : c.failed = false) :
    { r with body := .unread (some cs) }.call c .noContent =
      let without := { r with body := .unread none }.call c .noContent
      { without with events := .logged .debug "read 0 body bytes" :: without.events } := by
  have hvisit (b : BodyState) :
      { r with body := b }.visit .noContent = b.visit r.noContentFound := rfl
  dsimp only
  rw [call_of_ok _ _ hok, call_of_ok _ _ hok, hvisit, hvisit, BodyState.visit_of_empty h]
  rfl

/-- CORRECT. On an OK chain, asking for no content comes to what `NoContentOutcome` says, which is
something for every response, and the chain is OK afterwards exactly if nothing breaks off and
header and body are both empty. The body has the bytes of its stream, however often it has been
asked for before, and breaks off only where its stream is still to be read. A response without a
body is left and answered for like one whose stream gives no bytes; the two differ in the record
that the log has of reading. -/
theorem no_content_outcome (r : Response) (c : Chain) (hok : c.failed = false) :
    (∃ result, NoContentOutcome r result) ∧
    (∀ result, NoContentOutcome r result →
      (r.call c .noContent).EndsWith c .nothing result) ∧
    ((r.call c .noContent).state.1.failed = false ↔
      r.body.fault? = none ∧ r.contentTypeHeader = "" ∧ r.body.bytes = []) ∧
    (∀ stream, r.body.OfStream stream → r.body.bytes = bodyBytes stream ∧
      r.body.fault? = if r.body.hasStream = true then bodyFault? stream else none) ∧
    (∀ cs, contents cs = .ok [] →
      { r with body := .unread (some cs) }.call c .noContent =
        let without := { r with body := .unread none }.call c .noContent
        { without with events := .logged .debug "read 0 body bytes" :: without.events }) := by
  refine ⟨r.exists_noContentOutcome, fun _ => call_noContent_endsWith hok, ?_,
    fun _ hb => ⟨BodyState.bytes_of_ofStream hb, BodyState.fault?_of_ofStream hb⟩,
    fun _ hcs => call_noContent_of_empty hcs r hok⟩
  obtain ⟨result, hresult⟩ := r.exists_noContentOutcome
  rw [(call_noContent_endsWith hok hresult).failed_eq_false_iff hok]
  cases hresult with
  | nothing hwhole hheader hbody => exact ⟨fun _ => ⟨hwhole, hheader, hbody⟩, fun _ => ⟨_, rfl⟩⟩
  | stream hfault => simp [hfault]
  | header hwhole hheader hbody | both hwhole hheader hbody => simp [hheader]
  | body hwhole hheader hbody => simp [hbody]

/-- A response with a header and three letters in two pieces, of which messages quote two. -/
def wordy : Response :=
  { headed "text/plain" with
    body := .unread (some [.data [0x61], .interrupted, .data [0x62, 0x63]])
    previewLimit := 2 }

/-- Both are named. Where the stream breaks off, neither is. -/
theorem no_content_outcome_of_wordy :
    let c : Chain := { reporter := .recording }
    let torn := { wordy with body := .unread (some [.data [0x61], .broken "reset"]) }
    let both : Failure := ⟨.contentAbsenceViolation,
      "expected missing or empty \"Content-Type\" header, but got:\n  \"text/plain\"\n\n" ++
        "expected empty body, but got:\n  \"ab\"... (1 more bytes)"⟩
    c.failed = false ∧ (wordy.call c .noContent).Fails c both .nothing ∧
      (torn.call c .noContent).Fails c (BodyState.readFailure "reset") .nothing := by
  intro c torn both
  have hheader : wordy.contentTypeHeader = "text/plain" := by decide +kernel
  have hmessage : both.message = headerParagraph wordy.contentTypeHeader ++ "\n\n" ++
      bodyParagraph wordy.previewLimit wordy.body.bytes := by
    rw [hheader]
    decide +kernel
  have hboth : NoContentOutcome wordy (.error both) := by
    have houtcome := NoContentOutcome.both (r := wordy) rfl (by rw [hheader]; decide) (by decide)
    rwa [← hmessage] at houtcome
  exact ⟨rfl, (no_content_outcome wordy c rfl).2.1 _ hboth,
    (no_content_outcome torn c rfl).2.1 _ (.stream rfl)⟩

end Response

end Attest
