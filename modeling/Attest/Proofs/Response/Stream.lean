import Attest.Proofs.Chain.Request

/-!
Streams, and what becomes of them in the calls on a response.

A stream ends with its first chunk without bytes, or with its last one. If it breaks off before, all
that it gave is dropped; else its contents are the bytes of its chunks, one after the other, and
interruptions do not count (`contents_eq`). Of the calls on a response only four read the body
(`Response.visit_cases`), and after any number of them it is still as its stream has it
(`BodyState.OfStream`).
-/

namespace Attest

namespace Chunk

def bytes : Chunk → List UInt8
  | .data bytes => bytes
  | _ => []

def fault? : Chunk → Option String
  | .broken message => some message
  | _ => none

end Chunk

namespace Chunks

/-- The chunks before the first one without bytes. -/
def untilEnd (cs : List Chunk) : List Chunk := cs.takeWhile fun c => c ≠ .data []

/-- The bytes of the chunks in a row. -/
def bytes (cs : List Chunk) : List UInt8 := (untilEnd cs).flatMap Chunk.bytes

/-- The message of the first break. -/
def fault? (cs : List Chunk) : Option String := (untilEnd cs).findSome? Chunk.fault?

theorem untilEnd_cons {c : Chunk} (h : c ≠ .data []) (cs : List Chunk) :
    untilEnd (c :: cs) = c :: untilEnd cs :=
  List.takeWhile_cons_of_pos (by simpa using h)

theorem bytes_cons {c : Chunk} (h : c ≠ .data []) (cs : List Chunk) :
    bytes (c :: cs) = c.bytes ++ bytes cs := by
  simp [bytes, untilEnd_cons h]

theorem fault?_cons {c : Chunk} (h : c ≠ .data []) (cs : List Chunk) :
    fault? (c :: cs) = c.fault?.or (fault? cs) := by
  rw [fault?, untilEnd_cons h, List.findSome?_cons]
  cases c.fault? <;> rfl

end Chunks

/-- A stream gives the bytes of its chunks, unless it breaks off. -/
theorem contents_eq : ∀ cs : List Chunk,
    contents cs = match Chunks.fault? cs with
      | some message => .error message
      | none => .ok (Chunks.bytes cs)
  | [] => rfl
  | .data [] :: _ => rfl
  | .data (x :: xs) :: rest => by
    have hlive : Chunk.data (x :: xs) ≠ .data [] := by simp
    simp only [contents, contents_eq rest, Chunks.fault?_cons hlive, Chunks.bytes_cons hlive]
    cases Chunks.fault? rest <;> rfl
  | .interrupted :: rest => by
    have hlive : Chunk.interrupted ≠ .data [] := by simp
    simp only [contents, contents_eq rest, Chunks.fault?_cons hlive, Chunks.bytes_cons hlive]
    rfl
  | .broken _ :: _ => rfl

/-- The message with which a body breaks off. -/
def bodyFault? (stream : Option (List Chunk)) : Option String := stream.bind Chunks.fault?

/-- The bytes of a body: none where there is no stream, or where it breaks off. -/
def bodyBytes (stream : Option (List Chunk)) : List UInt8 :=
  match stream, bodyFault? stream with
  | some cs, none => Chunks.bytes cs
  | _, _ => []

theorem contents_of_fault {cs : List Chunk} {message : String}
    (h : bodyFault? (some cs) = some message) : contents cs = .error message := by
  have hcs : Chunks.fault? cs = some message := h
  rw [contents_eq, hcs]

theorem contents_of_no_fault {cs : List Chunk} (h : bodyFault? (some cs) = none) :
    contents cs = .ok (bodyBytes (some cs)) := by
  have hcs : Chunks.fault? cs = none := h
  rw [contents_eq, hcs]
  simp [bodyBytes, h]

theorem bodyBytes_of_fault {stream : Option (List Chunk)} {message : String}
    (h : bodyFault? stream = some message) : bodyBytes stream = [] := by
  cases stream <;> simp [bodyBytes, h]

/-- A stream of one chunk gives the bytes of the chunk. -/
theorem body_single (bytes : List UInt8) :
    bodyFault? (some [.data bytes]) = none ∧ bodyBytes (some [.data bytes]) = bytes := by
  cases bytes with
  | nil => exact ⟨rfl, rfl⟩
  | cons b bs => simp [bodyFault?, bodyBytes, Chunks.fault?, Chunks.bytes, Chunks.untilEnd,
      Chunk.fault?, Chunk.bytes]

/-! ### Bodies on the way -/

namespace BodyState

variable {α : Type} {stream : Option (List Chunk)} {b : BodyState}

/-- What a body can have become that had this stream: the stream is still there, or its bytes are
kept, or a panic stopped the call in which it broke off. -/
def OfStream (stream : Option (List Chunk)) : BodyState → Prop
  | .unread none => stream = none ∨ (bodyFault? stream).isSome
  | .unread (some cs) => stream = some cs
  | .kept bytes => bytes = bodyBytes stream

theorem ofStream_unread (stream : Option (List Chunk)) : (unread stream).OfStream stream := by
  cases stream <;> simp [OfStream]

theorem bodyBytes_of_unread (h : (unread none).OfStream stream) : bodyBytes stream = [] := by
  rcases h with rfl | hfault
  · rfl
  · obtain ⟨message, hmessage⟩ := Option.isSome_iff_exists.mp hfault
    exact bodyBytes_of_fault hmessage

/-- A call that goes on with the body goes on with the bytes of its stream. The one that finds the
stream and sees it break off fails instead. -/
theorem visit_found (h : b.OfStream stream) (goOn : List UInt8 → Except Failure α) :
    (b.visit goOn).found =
      match b.hasStream, bodyFault? stream with
      | true, some message => .error (readFailure message)
      | _, _ => goOn (bodyBytes stream) := by
  match b with
  | .kept bytes =>
    obtain rfl : bytes = bodyBytes stream := h
    rfl
  | .unread none =>
    rw [bodyBytes_of_unread h]
    rfl
  | .unread (some cs) =>
    obtain rfl : stream = some cs := h
    cases hfault : bodyFault? (some cs) with
    | none => simp [visit, contents_of_no_fault hfault, hasStream]
    | some message => simp [visit, contents_of_fault hfault, hasStream]

theorem visit_ofStream (h : b.OfStream stream) (goOn : List UInt8 → Except Failure α) :
    (b.visit goOn).body.OfStream stream ∧ (b.visit goOn).abandoned.OfStream stream := by
  match b with
  | .kept bytes => exact ⟨h, h⟩
  | .unread none => exact ⟨(bodyBytes_of_unread h).symm, (bodyBytes_of_unread h).symm⟩
  | .unread (some cs) =>
    obtain rfl : stream = some cs := h
    cases hfault : bodyFault? (some cs) with
    | none => simp [visit, contents_of_no_fault hfault, OfStream]
    | some message =>
      simp [visit, contents_of_fault hfault, OfStream, hfault, bodyBytes_of_fault hfault]

/-- No stream is left after a call that goes on with the body. -/
theorem visit_hasStream (b : BodyState) (goOn : List UInt8 → Except Failure α) :
    (b.visit goOn).body.hasStream = false ∧ (b.visit goOn).abandoned.hasStream = false := by
  unfold visit
  split
  · exact ⟨rfl, rfl⟩
  · exact ⟨rfl, rfl⟩
  · split <;> exact ⟨rfl, rfl⟩

end BodyState

/-! ### Calls on a response -/

/-- Other kinds than that of a body that could not be read. -/
abbrev NotOfBody (kind : FailureKind) : Prop := kind ≠ .bodyReadFailure

theorem failsOnly_readText (bytes : List UInt8) (charset : Option String) :
    FailsOnly NotOfBody (readText bytes charset) := by
  unfold readText
  dsimp only
  split
  next encoding _ =>
    cases encoding with
    | utf8 | ascii =>
      simp only [Encoding.decode]
      split <;> first | exact failsOnly_ok _ | exact failsOnly_error (by simp)
    | latin1 => exact failsOnly_ok _
  · exact failsOnly_error (by simp)

/-- The body after a visit is the one it left, or the one it left when a panic stopped it. -/
theorem Visit.settle_body {α : Type} (v : Visit α) (c : Chain) (placeholder : α) :
    (v.settle c placeholder).state.2 = v.body ∨ (v.settle c placeholder).state.2 = v.abandoned := by
  dsimp only [Visit.settle]
  cases (c.settle v.found placeholder).outcome with
  | returned a => exact .inl rfl
  | panicked message => exact .inr rfl

theorem Visit.settle_ok {α : Type} {v : Visit α} {c : Chain} {a : α} (hv : v.found = .ok a)
    (hok : c.failed = false) (placeholder : α) :
    (v.settle c placeholder).state.1 = c ∧ (v.settle c placeholder).events = v.events ∧
      (v.settle c placeholder).outcome = .returned a := by
  have hsettle : c.settle v.found placeholder = .pure c a := by
    rw [hv, Chain.settle_ok _ _ hok]
  simp [Visit.settle, hsettle, Effect.pure]

theorem Visit.settle_error {α : Type} {v : Visit α} {c : Chain} {f : Failure}
    (hv : v.found = .error f) (hok : c.failed = false) (placeholder : α) :
    (v.settle c placeholder).state.1 = c.after (.fail f) ∧
      (v.settle c placeholder).events = v.events ++ c.reporter.events f.text ∧
      (v.settle c placeholder).outcome = (c.reporter.outcome f.text).map fun _ => placeholder := by
  have hsettle : c.settle v.found placeholder = (c.fail f).map fun _ => placeholder := by
    rw [hv, Chain.settle_error _ _ hok]
  simp [Visit.settle, hsettle, Effect.map, Chain.fail, Chain.after, hok]

/-- Whether the call goes on with the body, if nothing fails before. -/
def ResponseCall.reads : ResponseCall → Bool
  | .noContent | .body | .text | .json => true
  | _ => false

namespace Response

variable {stream : Option (List Chunk)} {c : Chain}

theorem failsOnly_contentType (r : Response) (mediaType : String) (charset : Option String)
    {f : Failure} (h : r.contentTypeVerdict mediaType charset = some f) :
    f.kind ≠ .bodyReadFailure := by
  have hfound :
      FailsOnly NotOfBody (Verdict.found () (r.contentTypeVerdict mediaType charset)) := by
    unfold contentTypeVerdict
    dsimp only
    split
    · exact failsOnly_error (by simp [typeMismatch])
    · split
      · exact failsOnly_ok ()
      · exact failsOnly_require (by simp [typeMismatch]) ()
  exact hfound f (by rw [h]; rfl)

theorem failsOnly_readJson (r : Response) (bytes : List UInt8) :
    FailsOnly NotOfBody (r.readJson bytes) := by
  unfold readJson
  split
  next f hf => exact failsOnly_error (failsOnly_readText bytes none f hf)
  · split
    · exact failsOnly_ok _
    · exact failsOnly_error (by simp)

theorem failsOnly_noContentFound (r : Response) (bytes : List UInt8) :
    FailsOnly NotOfBody (r.noContentFound bytes) := by
  unfold noContentFound
  split
  · exact failsOnly_ok _
  · exact failsOnly_error (by simp [unwantedContent])

/-- A call leaves the body alone or goes on with it, and does not fail for want of a body by
itself. -/
theorem visit_cases (r : Response) (k : ResponseCall) :
    (∃ found, r.visit k = r.body.untouched found ∧ FailsOnly NotOfBody found) ∨
      (k.reads = true ∧
        ∃ goOn, r.visit k = r.body.visit goOn ∧ ∀ bytes, FailsOnly NotOfBody (goOn bytes)) := by
  have htype (mediaType : String) (charset : Option String) (a : Reply) :
      FailsOnly NotOfBody (Verdict.found a (r.contentTypeVerdict mediaType charset)) := by
    cases h : r.contentTypeVerdict mediaType charset with
    | none => exact failsOnly_ok a
    | some f => exact failsOnly_error (r.failsOnly_contentType _ _ h)
  cases k with
  | status expected => exact .inl ⟨_, rfl, failsOnly_require (by simp [Failure.mismatch]) _⟩
  | contentType | contentTypeCharset => exact .inl ⟨_, rfl, htype _ _ _⟩
  | headers | header => exact .inl ⟨_, rfl, failsOnly_ok _⟩
  | noContent => exact .inr ⟨rfl, _, rfl, r.failsOnly_noContentFound⟩
  | body => exact .inr ⟨rfl, _, rfl, fun _ => failsOnly_ok _⟩
  | text =>
    simp only [visit, visitText]
    split
    next f hf => exact .inl ⟨_, rfl, failsOnly_error (r.failsOnly_contentType _ _ hf)⟩
    next =>
      refine .inr ⟨rfl, _, BodyState.visit_map .., ?_⟩
      exact fun bytes => failsOnly_map (failsOnly_readText _ _) _
  | json =>
    simp only [visit, visitJson]
    split
    next f hf => exact .inl ⟨_, rfl, failsOnly_error (r.failsOnly_contentType _ _ hf)⟩
    next =>
      split
      · refine .inr ⟨rfl, _, BodyState.visit_map .., ?_⟩
        exact fun bytes => failsOnly_map (r.failsOnly_readJson bytes) _
      · exact .inl ⟨_, rfl, failsOnly_error (by simp [charsetRefused])⟩

/-- No stream is left after a call on an OK chain that goes on with the body. -/
theorem call_hasStream (r : Response) {k : ResponseCall} {goOn : List UInt8 → Except Failure Reply}
    (hok : c.failed = false) (hk : r.visit k = r.body.visit goOn) :
    (r.call c k).state.2.body.hasStream = false := by
  obtain ⟨hleft, habandoned⟩ := r.body.visit_hasStream goOn
  rw [← hk] at hleft habandoned
  rw [r.call_of_ok k hok]
  rcases Visit.settle_body (r.visit k) c (r.remains k) with h | h <;> rw [h] <;> assumption

/-- A call leaves the body as it is, or it is a call on an OK chain that goes on with the body. -/
theorem call_body (r : Response) (c : Chain) (k : ResponseCall) :
    (r.call c k).state.2.body = r.body ∨
      (c.failed = false ∧ k.reads = true ∧ ∃ goOn, r.visit k = r.body.visit goOn) := by
  cases hf : c.failed with
  | true => exact .inl (by rw [r.call_of_failed k hf]; rfl)
  | false =>
    rcases r.visit_cases k with ⟨found, hk, -⟩ | ⟨hreads, goOn, hk, -⟩
    · refine .inl ?_
      rw [r.call_of_ok k hf]
      rcases Visit.settle_body (r.visit k) c (r.remains k) with h | h <;> rw [h, hk] <;> rfl
    · exact .inr ⟨rfl, hreads, goOn, hk⟩

theorem call_ofStream {r : Response} (hb : r.body.OfStream stream) (c : Chain)
    (k : ResponseCall) : (r.call c k).state.2.body.OfStream stream := by
  cases hf : c.failed with
  | true => rw [r.call_of_failed k hf]; exact hb
  | false =>
    rw [r.call_of_ok k hf]
    have hvisit : (r.visit k).body.OfStream stream ∧ (r.visit k).abandoned.OfStream stream := by
      rcases r.visit_cases k with ⟨found, hk, -⟩ | ⟨-, goOn, hk, -⟩ <;> rw [hk]
      · exact ⟨hb, hb⟩
      · exact BodyState.visit_ofStream hb goOn
    rcases Visit.settle_body (r.visit k) c (r.remains k) with h | h <;> rw [h]
    · exact hvisit.1
    · exact hvisit.2

/-- The call that finds the stream and sees it break off fails the chain. -/
theorem call_of_fault {r : Response} {k : ResponseCall} {message : String}
    (hb : r.body.OfStream stream) (hfault : bodyFault? stream = some message)
    (hs : r.body.hasStream = true) (hgone : (r.call c k).state.2.body.hasStream = false) :
    (r.call c k).state.1 = c.after (.fail (BodyState.readFailure message)) ∧
      (r.call c k).events = c.reporter.events (BodyState.readFailure message).text ∧
      (r.call c k).outcome =
        (c.reporter.outcome (BodyState.readFailure message).text).map fun _ => r.remains k := by
  rcases r.call_body c k with hsame | ⟨hok, -, goOn, hk⟩
  · rw [hsame, hs] at hgone
    exact absurd hgone (by decide)
  · have hfound := BodyState.visit_found hb goOn
    rw [hs, hfault, ← hk] at hfound
    have hevents : (r.visit k).events = [] := by
      rw [hk]
      match hr : r.body with
      | .kept _ | .unread none => simp [hr, BodyState.hasStream] at hs
      | .unread (some cs) =>
        obtain rfl : stream = some cs := by simpa [hr, BodyState.OfStream] using hb
        simp [BodyState.visit, contents_of_fault hfault]
    obtain ⟨hchain, htold, hout⟩ := Visit.settle_error hfound hok (r.remains k)
    rw [r.call_of_ok k hok]
    exact ⟨hchain, by simpa [hevents] using htold, hout⟩

/-- A call fails like that only where it sees the stream break off. -/
theorem fault_of_call {r : Response} {k : ResponseCall} {f : Failure}
    (hb : r.body.OfStream stream) (hok : c.failed = false)
    (hf : (r.visit k).found = .error f) (hkind : f.kind = .bodyReadFailure) :
    r.body.hasStream = true ∧ (r.call c k).state.2.body.hasStream = false ∧
      (bodyFault? stream).isSome := by
  rcases r.visit_cases k with ⟨found, hk, hother⟩ | ⟨-, goOn, hk, hother⟩
  · exact absurd hkind (hother f (by rw [hk] at hf; exact hf))
  · have hgone := r.call_hasStream hok hk
    rw [hk, BodyState.visit_found hb goOn] at hf
    cases hs : r.body.hasStream with
    | false =>
      rw [hs] at hf
      exact absurd hkind (hother _ f hf)
    | true =>
      cases hfault : bodyFault? stream with
      | none =>
        rw [hs, hfault] at hf
        exact absurd hkind (hother _ f hf)
      | some message => exact ⟨rfl, hgone, rfl⟩

/-- Asked for on an OK chain, the body is handed out, with the bytes of its stream. -/
theorem call_body_of_ok {r : Response} (hb : r.body.OfStream stream) (hok : c.failed = false)
    (hread : r.body.hasStream = true → bodyFault? stream = none) :
    (r.call c .body).state.1 = c ∧
      (r.call c .body).outcome =
        .returned (.subject (.body (bodyBytes stream) r.previewLimit)) := by
  have hfound : (r.visit .body).found =
      .ok (.subject (.body (bodyBytes stream) r.previewLimit)) := by
    refine (BodyState.visit_found hb _).trans ?_
    cases hs : r.body.hasStream with
    | false => rfl
    | true => rw [hread hs]
  rw [r.call_of_ok .body hok]
  obtain ⟨hchain, -, hout⟩ := Visit.settle_ok hfound hok (r.remains .body)
  exact ⟨hchain, hout⟩

end Response

end Attest
