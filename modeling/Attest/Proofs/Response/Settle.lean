import Attest.Proofs.Chain.Settle
import Attest.Response

/-!
What the calls on responses come to.

On an OK chain a call finds something or fails with one failure, and may read the body on its way
(`Response.visit`); a failed chain lets it do nothing. The acts of all calls, which look at the
chain up to three times, come to this (`Response.call_of_ok`, `Response.call_of_failed`).
-/

namespace Attest

open BodyState (Scene)

/-- What a call on an OK chain found, and what it did to the body. -/
structure Visit (α : Type) where
  found : Except Failure α
  /-- The body afterwards. -/
  body : BodyState
  /-- The body afterwards, if reporting the failure stops the call. -/
  abandoned : BodyState
  events : List Event

namespace Visit

variable {α β : Type}

def map (f : α → β) (v : Visit α) : Visit β := ⟨v.found.map f, v.body, v.abandoned, v.events⟩

/-- Lets the chain decide. -/
def settle (v : Visit α) (c : Chain) (placeholder : α) : Effect Scene α :=
  let e := c.settle v.found placeholder
  let body := match e.outcome with
    | .returned _ => v.body
    | .panicked _ => v.abandoned
  ⟨(e.state, body), v.events ++ e.events, e.outcome⟩

end Visit

namespace BodyState

variable {α β : Type}

/-- A call that has no need of the body. -/
def untouched (b : BodyState) (found : Except Failure α) : Visit α := ⟨found, b, b, []⟩

/-- A call that goes on with the bytes of the body, which it reads if they have not been read. -/
def visit (b : BodyState) (goOn : List UInt8 → Except Failure α) : Visit α :=
  match b with
  | .kept bytes => ⟨goOn bytes, b, b, []⟩
  | .unread none => ⟨goOn [], .kept [], .kept [], []⟩
  | .unread (some stream) =>
    match contents stream with
    | .ok bytes =>
      ⟨goOn bytes, .kept bytes, .kept bytes, [.logged .debug s!"read {bytes.length} body bytes"]⟩
    | .error message => ⟨.error (readFailure message), .kept [], .unread none, []⟩

theorem visit_map (b : BodyState) (g : List UInt8 → Except Failure α) (f : α → β) :
    (b.visit g).map f = b.visit fun bytes => (g bytes).map f := by
  unfold visit
  split
  · rfl
  · rfl
  · split <;> rfl

end BodyState

namespace Response

/-- What is found where there should be no content. -/
def noContentFound (r : Response) (bytes : List UInt8) : Except Failure Reply :=
  match r.noContentProblems bytes with
  | [] => .ok .nothing
  | problems => .error (unwantedContent problems)

def visitText (r : Response) : Visit String :=
  match r.contentTypeVerdict "text/plain" none with
  | some f => r.body.untouched (.error f)
  | none => r.body.visit fun bytes => readText bytes r.contentType.charset

def visitJson (r : Response) : Visit Json :=
  match r.contentTypeVerdict "application/json" none with
  | some f => r.body.untouched (.error f)
  | none =>
    if r.contentType.isUtf8 then r.body.visit r.readJson
    else r.body.untouched (.error (charsetRefused r.contentType.charsetText))

/-- What a call finds on an OK chain. -/
def visit (r : Response) : ResponseCall → Visit Reply
  | .status expected =>
    r.body.untouched (Verdict.found .nothing (require (r.status = expected)
      (.mismatch .statusMismatch "status" expected.text r.status.text)))
  | .noContent => r.body.visit r.noContentFound
  | .contentType mediaType =>
    r.body.untouched ((r.contentTypeVerdict mediaType none).found .nothing)
  | .contentTypeCharset mediaType charset =>
    r.body.untouched ((r.contentTypeVerdict mediaType (some charset)).found .nothing)
  | .headers => r.body.untouched (.ok (.subject (.headers r.headers)))
  | .header name => r.body.untouched (.ok (.subject (.text ((r.headers.first? name).getD ""))))
  | .body => r.body.visit fun bytes => .ok (.subject (.body bytes r.previewLimit))
  | .text => r.visitText.map fun s => .subject (.text s)
  | .json => r.visitJson.map fun v => .subject (.value (some v))

end Response

/-- What a call hands out on a failed chain. -/
def ResponseCall.placeholder : ResponseCall → Reply
  | .headers => .subject Subject.noHeaders
  | .header _ => .subject Subject.noText
  | .body => .subject Subject.noBody
  | .text => .subject Subject.noText
  | .json => .subject Subject.noValue
  | _ => .nothing

/-- What a call hands out when it fails its chain. A body that could not be read is empty and keeps
the limit of the response. -/
def Response.remains (r : Response) : ResponseCall → Reply
  | .body => .subject (.body [] r.previewLimit)
  | k => k.placeholder

/-! ### Acts beside a body -/

namespace Act

variable {α β : Type} {c : Chain} {b : BodyState}

theorem scene_isFailed_bind (f : Bool → Act Scene α) (c : Chain) (b : BodyState) :
    ((liftM isFailed : Act Scene Bool) >>= f) (c, b) = f c.failed (c, b) := rfl

/-- An act on the chain that does nothing to it lets the next one go on. -/
theorem scene_bind_of_pure {m : Act Chain α} {a : α} (hm : m c = .pure c a) (f : α → Act Scene β) :
    ((liftM m : Act Scene α) >>= f) (c, b) = f a (c, b) := by
  refine bind_run_of_pure ?_ f
  change (⟨((m c).state, b), (m c).events, (m c).outcome⟩ : Effect Scene α) = _
  rw [hm]
  rfl

/-- Where an act fails an OK chain and the next one then hands out its placeholder, the two leave
the body alone. -/
theorem scene_bind_of_error {m : Act Chain α} {p : α} {q : β} {e : Failure}
    {f : α → Act Scene β} (hok : c.failed = false) (hm : m c = c.settle (.error e) p)
    (hq : ∀ d : Chain, d.failed = true → f p (d, b) = .pure (d, b) q) :
    ((liftM m : Act Scene α) >>= f) (c, b) = (b.untouched (.error e)).settle c q := by
  rw [Chain.settle_error _ _ hok] at hm
  have hl : (liftM m : Act Scene α) (c, b) = ⟨((m c).state, b), (m c).events, (m c).outcome⟩ := rfl
  have hr : c.settle (.error e) q = (c.fail e).map fun _ => q := Chain.settle_error e q hok
  unfold Visit.settle BodyState.untouched
  dsimp only
  cases ho : (c.fail e).outcome with
  | returned u =>
    have hp : (m c).outcome = .returned p := by rw [hm]; simp [Effect.map, ho, Outcome.map]
    rw [bind_run_of_returned (by rw [hl]; exact hp), hl, hm, hr]
    simp [Effect.map, ho, Outcome.map, hq _ (c.fail_failed e), Effect.pure]
  | panicked message =>
    have hp : (m c).outcome = .panicked message := by rw [hm]; simp [Effect.map, ho, Outcome.map]
    rw [bind_run_of_panicked (by rw [hl]; exact hp), hl, hm, hr]
    simp [Effect.map, ho, Outcome.map]

/-- Failing an OK chain and handing out a placeholder. -/
theorem scene_fail_then (hok : c.failed = false) (e : Failure) (q : β) :
    ((liftM (fail e) : Act Scene Unit) >>= fun _ => (pure q : Act Scene β)) (c, b) =
      (b.untouched (.error e)).settle c q := by
  refine scene_bind_of_error (p := ()) hok ?_ (fun _ _ => rfl)
  rw [Chain.settle_error _ _ hok, Effect.map_unit]
  rfl

end Act

/-! ### Reading the body -/

namespace BodyState

variable {α : Type} {c : Chain} {b : BodyState}

theorem keep_run (bytes : List UInt8) (s : Scene) :
    keep bytes s = .pure (s.1, .kept bytes) bytes := rfl

theorem read_kept (c : Chain) (bytes : List UInt8) :
    read (c, .kept bytes) = .pure (c, .kept bytes) bytes := rfl

theorem read_none (c : Chain) : read (c, .unread none) = .pure (c, .kept []) [] := rfl

theorem read_ok {stream : List Chunk} {bytes : List UInt8} (h : contents stream = .ok bytes)
    (c : Chain) :
    read (c, .unread (some stream)) =
      ⟨(c, .kept bytes), [.logged .debug s!"read {bytes.length} body bytes"], .returned bytes⟩ := by
  change drain stream (c, .unread none) = _
  unfold drain
  rw [h]
  rfl

/-- A stream that breaks off has been taken away when its failure is reported. -/
theorem read_error {stream : List Chunk} {message : String} (h : contents stream = .error message)
    (c : Chain) :
    read (c, .unread (some stream)) =
      (match (c.fail (readFailure message)).outcome with
      | .returned _ => ⟨((c.fail (readFailure message)).state, .kept []),
          (c.fail (readFailure message)).events, .returned []⟩
      | .panicked m => ⟨((c.fail (readFailure message)).state, .unread none),
          (c.fail (readFailure message)).events, .panicked m⟩) := by
  change drain stream (c, .unread none) = _
  unfold drain
  rw [h]
  have hl : (liftM (Act.fail (readFailure message)) : Act Scene Unit) (c, .unread none) =
      ⟨((c.fail (readFailure message)).state, .unread none),
        (c.fail (readFailure message)).events, (c.fail (readFailure message)).outcome⟩ := rfl
  dsimp only
  cases ho : (c.fail (readFailure message)).outcome with
  | returned u =>
    rw [Act.bind_run_of_returned (by rw [hl]; exact ho), hl]
    simp [keep_run, Effect.pure]
  | panicked m => rw [Act.bind_run_of_panicked (by rw [hl]; exact ho), hl]

/-- Reading the body and going on with its bytes, where an OK chain has the rest settled and a
failed one gets the placeholder. -/
theorem read_bind {f : List UInt8 → Act Scene α} {g : List UInt8 → Except Failure α} {q : α}
    (hok : c.failed = false)
    (hf : ∀ bytes b', f bytes (c, b') = (b'.untouched (g bytes)).settle c q)
    (hq : ∀ (d : Chain) b', d.failed = true → f [] (d, b') = .pure (d, b') q) :
    (read >>= f) (c, b) = (b.visit g).settle c q := by
  match b with
  | .kept bytes => rw [Act.bind_run_of_pure (read_kept c bytes), hf]; rfl
  | .unread none => rw [Act.bind_run_of_pure (read_none c), hf]; rfl
  | .unread (some stream) =>
    cases h : contents stream with
    | ok bytes =>
      have hread := read_ok h c
      rw [Act.bind_run_of_returned (by rw [hread]), hread, hf]
      simp [Visit.settle, visit, untouched, h]
    | error message =>
      have hread := read_error h c
      have hsettle := c.settle_error (readFailure message) q hok
      unfold Visit.settle visit
      cases ho : (c.fail (readFailure message)).outcome with
      | returned u =>
        rw [ho] at hread
        rw [Act.bind_run_of_returned (by rw [hread]), hread, hq _ _ (c.fail_failed _)]
        simp [h, hsettle, Effect.map, Effect.pure, ho, Outcome.map]
      | panicked m =>
        rw [ho] at hread
        rw [Act.bind_run_of_panicked (by rw [hread]), hread]
        simp [h, hsettle, Effect.map, ho, Outcome.map]

end BodyState

/-! ### Calls -/

namespace Response

variable {c : Chain}

theorem checkContentType_run (r : Response) (mediaType : String) (charset : Option String)
    (c : Chain) :
    r.checkContentType mediaType charset c =
      c.settle ((r.contentTypeVerdict mediaType charset).found true) false := by
  unfold checkContentType
  rw [Act.isFailed_bind]
  cases hf : c.failed with
  | true => rw [Chain.settle_of_failed hf]; rfl
  | false =>
    cases r.contentTypeVerdict mediaType charset with
    | none => rw [Verdict.found, Chain.settle_ok _ _ hf]; rfl
    | some f =>
      rw [Verdict.found, Chain.settle_error _ _ hf]
      exact Act.fail_then f false c

/-- On a failed chain every call hands out its placeholder and does nothing. -/
theorem act_of_failed (r : Response) (k : ResponseCall) (hf : c.failed = true) (b : BodyState) :
    r.act k (c, b) = .pure (c, b) k.placeholder := by
  have hcheck (v : Verdict) : Act.check v c = .pure c () := by
    rw [Act.check_run, Chain.settle_of_failed hf]
  have htype (mediaType : String) (charset : Option String) :
      r.checkContentType mediaType charset c = .pure c false := by
    rw [checkContentType_run, Chain.settle_of_failed hf]
  cases k with
  | status expected => exact Act.scene_bind_of_pure (hcheck _) _
  | contentType | contentTypeCharset => exact Act.scene_bind_of_pure (htype _ _) _
  | text | json => exact Act.scene_bind_of_pure (htype _ _) _
  | noContent | headers | header | body =>
    refine (Act.scene_isFailed_bind _ c b).trans ?_
    rw [hf]
    rfl

/-! The acts of an OK chain, call by call. -/

section Ok

variable (hok : c.failed = false) (b : BodyState)
include hok

theorem pure_settle (a q : Reply) :
    (pure a : Act Scene Reply) (c, b) = (b.untouched (.ok a)).settle c q := by
  have hsettle : c.settle (.ok a) q = .pure c a := Chain.settle_ok _ _ hok
  simp [Visit.settle, BodyState.untouched, hsettle, Effect.pure]

/-- An act on the chain after which nothing is handed out. -/
theorem then_nothing {α : Type} {m : Act Chain α} {v : Verdict} {a p : α}
    (hm : m c = c.settle (v.found a) p) :
    ((liftM m : Act Scene α) >>= fun _ => (pure .nothing : Act Scene Reply)) (c, b) =
      (b.untouched (v.found .nothing)).settle c .nothing := by
  cases v with
  | none =>
    rw [Act.scene_bind_of_pure (hm.trans (Chain.settle_ok a p hok))]
    exact pure_settle hok b .nothing .nothing
  | some f => exact Act.scene_bind_of_error hok hm fun _ _ => rfl

end Ok

theorem actNoContent_of_ok (r : Response) (hok : c.failed = false) (b : BodyState) :
    r.actNoContent (c, b) = (b.visit r.noContentFound).settle c .nothing := by
  unfold actNoContent
  rw [Act.scene_isFailed_bind, hok]
  refine BodyState.read_bind hok ?_ ?_
  · intro bytes b'
    rw [Act.scene_isFailed_bind, hok, noContentFound]
    cases r.noContentProblems bytes with
    | nil => exact pure_settle hok b' .nothing .nothing
    | cons problem more => exact Act.scene_fail_then hok _ Reply.nothing
  · intro d b' hf
    rw [Act.scene_isFailed_bind, hf]
    rfl

theorem actText_of_ok (r : Response) (hok : c.failed = false) :
    r.actText (c, r.body) =
      (r.visitText.map fun s => Reply.subject (.text s)).settle c (.subject Subject.noText) := by
  have htype := r.checkContentType_run "text/plain" none c
  unfold actText visitText
  cases hv : r.contentTypeVerdict "text/plain" none with
  | some f =>
    rw [hv] at htype
    exact Act.scene_bind_of_error hok htype fun _ _ => rfl
  | none =>
    rw [hv] at htype
    rw [Act.scene_bind_of_pure (htype.trans (Chain.settle_ok _ _ hok)), BodyState.visit_map]
    refine BodyState.read_bind hok (fun bytes b' => ?_) (fun d b' hf => ?_)
    · rw [Act.scene_isFailed_bind, hok]
      cases readText bytes r.contentType.charset with
      | ok text => exact pure_settle hok b' _ _
      | error f => exact Act.scene_fail_then hok f _
    · rw [Act.scene_isFailed_bind, hf]
      rfl

theorem actJson_of_ok (r : Response) (hok : c.failed = false) :
    r.actJson (c, r.body) =
      (r.visitJson.map fun v => Reply.subject (.value (some v))).settle c
        (.subject Subject.noValue) := by
  have htype := r.checkContentType_run "application/json" none c
  unfold actJson visitJson
  cases hv : r.contentTypeVerdict "application/json" none with
  | some f =>
    rw [hv] at htype
    exact Act.scene_bind_of_error hok htype fun _ _ => rfl
  | none =>
    rw [hv] at htype
    rw [Act.scene_bind_of_pure (htype.trans (Chain.settle_ok _ _ hok))]
    cases r.contentType.isUtf8 with
    | false => exact Act.scene_fail_then hok _ (Reply.subject Subject.noValue)
    | true =>
      refine Eq.trans ?_ (congrArg (fun v : Visit Reply => v.settle c _)
        (BodyState.visit_map r.body r.readJson _).symm)
      refine BodyState.read_bind hok (fun bytes b' => ?_) (fun d b' hf => ?_)
      · rw [Act.scene_isFailed_bind, hok]
        cases r.readJson bytes with
        | ok v => exact pure_settle hok b' _ _
        | error f => exact Act.scene_fail_then hok f _
      · rw [Act.scene_isFailed_bind, hf]
        rfl

theorem act_of_ok (r : Response) (k : ResponseCall) (hok : c.failed = false) :
    r.act k (c, r.body) = (r.visit k).settle c (r.remains k) := by
  cases k with
  | status expected => exact then_nothing hok r.body (Act.check_run _ c)
  | contentType mediaType => exact then_nothing hok r.body (r.checkContentType_run ..)
  | contentTypeCharset mediaType charset =>
    exact then_nothing hok r.body (r.checkContentType_run ..)
  | noContent => exact r.actNoContent_of_ok hok r.body
  | text => exact r.actText_of_ok hok
  | json => exact r.actJson_of_ok hok
  | headers | header =>
    refine (Act.scene_isFailed_bind _ c r.body).trans ?_
    rw [hok]
    exact pure_settle hok r.body _ _
  | body =>
    refine (Act.scene_isFailed_bind _ c r.body).trans ?_
    rw [hok]
    refine BodyState.read_bind hok (fun bytes b' => ?_) (fun _ _ _ => rfl)
    exact pure_settle hok b' _ _

/-- A failed chain lets a call do nothing. -/
theorem call_of_failed (r : Response) (k : ResponseCall) (hf : c.failed = true) :
    r.call c k = .pure (c, r) k.placeholder := by
  unfold call
  rw [r.act_of_failed k hf]
  rfl

/-- On an OK chain a call does what it finds, settled once. -/
theorem call_of_ok (r : Response) (k : ResponseCall) (hok : c.failed = false) :
    r.call c k =
      ⟨(((r.visit k).settle c (r.remains k)).state.1,
          { r with body := ((r.visit k).settle c (r.remains k)).state.2 }),
        ((r.visit k).settle c (r.remains k)).events,
        ((r.visit k).settle c (r.remains k)).outcome⟩ := by
  unfold call
  rw [r.act_of_ok k hok]

end Response

end Attest
