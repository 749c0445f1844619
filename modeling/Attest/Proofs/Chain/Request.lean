import Attest.Proofs.Response.Settle
import Attest.Proofs.Subject.Settle
import Attest.Session.Item

/-!
Requests: what a call wants of the chain that its item holds.

An item and a call settle between them whether the call would fail an OK chain, and with which
failure; they do so without looking at the chain. What becomes of the chain, and what its reporter
is told, then depends on the chain and the request alone (`Item.call_state`, `Item.call_told`).
-/

namespace Attest

/-! ### What reporters are told -/

namespace Reporter

/-- Whether a report comes back to its caller. -/
def returns : Reporter → Bool
  | .panic => false
  | _ => true

/-- The message that an event brings to the reporter. -/
def received? : Reporter → Event → Option String
  | .recording, .recorded m => some m
  | .log, .logged .error m => some m
  | .console c, .printed d m => if c = d then some m else none
  | .custom name, .delivered whom m => if name = whom then some m else none
  | _, _ => none

/-- The messages that events bring to the reporter, in order. -/
def received (r : Reporter) (events : List Event) : List String := events.filterMap r.received?

@[simp] theorem received_nil (r : Reporter) : r.received [] = [] := rfl

@[simp] theorem received_append (r : Reporter) (es fs : List Event) :
    r.received (es ++ fs) = r.received es ++ r.received fs := by simp [received]

/-- The recording gets what is recorded. -/
theorem received_recording (events : List Event) :
    recording.received events = events.filterMap Event.recorded? := by
  have hsame : recording.received? = Event.recorded? := by
    funext e
    cases e <;> rfl
  rw [received, hsame]

/-- A reporter that returns is told what it is given to report. -/
theorem received_events {r : Reporter} (hr : r.returns = true) (m : String) :
    r.received (r.events m) = [m] := by
  cases r with
  | panic => simp [returns] at hr
  | recording => rfl
  | log => rfl
  | console c => simp [received, events, received?]
  | custom name => simp [received, events, received?]

/-- Log records below the level of errors are nobody's messages. -/
theorem received_logged (r : Reporter) {level : Level} (hl : level ≠ .error) (text : String) :
    r.received [.logged level text] = [] := by
  cases r <;> cases level <;> simp_all [received, received?]

end Reporter

/-! ### Requests -/

/-- What a call wants of its chain. -/
inductive Request where
  | nothing
  | fail (f : Failure)
  | reset
deriving DecidableEq, Repr

namespace Request

def failure? : Request → Option Failure
  | .fail f => some f
  | _ => none

/-- The request of a call that found something, or a failure. -/
def ofFound {α : Type} : Except Failure α → Request
  | .ok _ => .nothing
  | .error f => .fail f

end Request

def ChainCall.request : ChainCall → Request
  | .fail f => .fail f
  | .reset => .reset
  | .requireOk | .requireFailed => .nothing

/-- The request of a call that was judged. -/
def Judgement.request : Judgement → Request
  | .check verdict => .ofFound (verdict.found Reply.nothing)
  | .derive found _ => .ofFound found
  | .tell _ => .nothing

/-- What the call would do to an OK chain. -/
def Item.request : Item → ItemCall → Request
  | .chain, .chain k => k.request
  | .response r, .response k => .ofFound (r.visit k).found
  | .subject s, .subject k =>
    match s.judge k with
    | some j => j.request
    | none => .nothing
  | _, _ => .nothing

namespace Chain

/-- The chain after a request: a failure counts on an OK chain alone. -/
def after (c : Chain) : Request → Chain
  | .nothing => c
  | .fail f => if c.failed then c else { c with failed := true, kind := some f.kind }
  | .reset => { c with failed := false, kind := none }

/-- What the reporter is told on a request. -/
def told (c : Chain) : Request → List String
  | .fail f => if c.failed then [] else [f.text]
  | _ => []

@[simp] theorem after_nothing (c : Chain) : c.after .nothing = c := rfl

@[simp] theorem told_nothing (c : Chain) : c.told .nothing = [] := rfl

@[simp] theorem after_reporter (c : Chain) (q : Request) : (c.after q).reporter = c.reporter := by
  cases q <;> simp only [after]
  split <;> rfl

theorem after_of_failed {c : Chain} (hf : c.failed = true) {q : Request} (hq : q ≠ .reset) :
    c.after q = c := by
  cases q <;> simp_all [after]

theorem told_of_failed {c : Chain} (hf : c.failed = true) (q : Request) : c.told q = [] := by
  cases q <;> simp_all [told]

/-! ### Spec lemmas of the calls on a chain -/

theorem fail_state (c : Chain) (f : Failure) : (c.fail f).state = c.after (.fail f) := by
  unfold fail after
  split <;> rfl

theorem fail_told {c : Chain} (hr : c.reporter.returns = true) (f : Failure) :
    c.reporter.received (c.fail f).events = c.told (.fail f) := by
  unfold fail told
  split
  · exact c.reporter.received_logged (by decide) _
  · exact Reporter.received_events hr _

/-- An assertion about the chain itself leaves it alone, whether it panics or not. -/
theorem assertion_state (c : Chain) (panic? : Option String) : (c.assertion panic?).state = c := by
  cases panic? <;> rfl

theorem assertion_events (c : Chain) (panic? : Option String) :
    (c.assertion panic?).events = [] := by
  cases panic? <;> rfl

theorem call_state (c : Chain) (k : ChainCall) : (c.call k).state = c.after k.request := by
  cases k with
  | fail f => exact c.fail_state f
  | reset => rfl
  | requireOk | requireFailed => exact c.assertion_state _

theorem call_told {c : Chain} (hr : c.reporter.returns = true) (k : ChainCall) :
    c.reporter.received (c.call k).events = c.told k.request := by
  cases k with
  | fail f => exact c.fail_told hr f
  | reset => exact c.reporter.received_logged (by decide) _
  | requireOk | requireFailed => exact congrArg c.reporter.received (c.assertion_events _)

theorem settle_state {α : Type} (c : Chain) (found : Except Failure α) (placeholder : α) :
    (c.settle found placeholder).state = c.after (.ofFound found) := by
  cases hf : c.failed with
  | true =>
    rw [after_of_failed hf (by cases found <;> simp [Request.ofFound])]
    simp [settle, hf, Effect.pure]
  | false =>
    cases found with
    | ok a => simp [settle, hf, Effect.pure, Request.ofFound]
    | error f => simpa [settle, hf, Effect.map, Request.ofFound] using c.fail_state f

theorem settle_told {α : Type} {c : Chain} (hr : c.reporter.returns = true)
    (found : Except Failure α) (placeholder : α) :
    c.reporter.received (c.settle found placeholder).events = c.told (.ofFound found) := by
  cases hf : c.failed with
  | true => simp [settle, hf, Effect.pure, told_of_failed hf]
  | false =>
    cases found with
    | ok a => simp [settle, hf, Effect.pure, Request.ofFound]
    | error f => simpa [settle, hf, Effect.map, Request.ofFound] using c.fail_told hr f

end Chain

/-! ### Spec lemmas of the calls on an item -/

/-- Reading a body writes to the log at most, below the level of errors. -/
theorem BodyState.visit_told {α : Type} (r : Reporter) (b : BodyState)
    (goOn : List UInt8 → Except Failure α) : r.received (b.visit goOn).events = [] := by
  unfold visit
  split
  · rfl
  · rfl
  · split
    · exact r.received_logged (by decide) _
    · rfl

theorem Response.visit_told (q : Reporter) (r : Response) (k : ResponseCall) :
    q.received (r.visit k).events = [] := by
  cases k with
  | noContent => exact BodyState.visit_told ..
  | body => exact BodyState.visit_told ..
  | text =>
    simp only [visit, Visit.map, visitText]
    split
    · rfl
    · exact BodyState.visit_told ..
  | json =>
    simp only [visit, Visit.map, visitJson]
    split
    · rfl
    · split
      · exact BodyState.visit_told ..
      · rfl
  | status | contentType | contentTypeCharset | headers | header => rfl

theorem Response.call_state (r : Response) (c : Chain) (k : ResponseCall) :
    (r.call c k).state.1 = c.after (.ofFound (r.visit k).found) := by
  cases hf : c.failed with
  | true =>
    rw [r.call_of_failed k hf]
    exact (Chain.after_of_failed hf (by cases (r.visit k).found <;> simp [Request.ofFound])).symm
  | false =>
    rw [r.call_of_ok k hf]
    exact c.settle_state (r.visit k).found (r.remains k)

theorem Response.call_told (r : Response) {c : Chain} (hr : c.reporter.returns = true)
    (k : ResponseCall) :
    c.reporter.received (r.call c k).events = c.told (.ofFound (r.visit k).found) := by
  cases hf : c.failed with
  | true =>
    rw [r.call_of_failed k hf, Chain.told_of_failed hf]
    rfl
  | false =>
    rw [r.call_of_ok k hf]
    simpa [Visit.settle, r.visit_told] using
      Chain.settle_told hr (r.visit k).found (r.remains k)

theorem Judgement.request_found (j : Judgement) : j.request = .ofFound j.found := by
  cases j with
  | check verdict => rfl
  | derive found placeholder => cases found <;> rfl
  | tell reply => rfl

theorem Judgement.settle_state (c : Chain) (j : Judgement) :
    (j.settle c).state = c.after j.request := by
  rw [j.settle_found, c.settle_state, j.request_found]

theorem Judgement.settle_told {c : Chain} (hr : c.reporter.returns = true) (j : Judgement) :
    c.reporter.received (j.settle c).events = c.told j.request := by
  rw [j.settle_found, Chain.settle_told hr, j.request_found]

namespace Item

variable {c : Chain} {x : Item} {k : ItemCall} {e : Effect (Chain × Item) Reply}

/-- All that a call can be: one on a chain, on a response, or on a subject that judges it. -/
theorem call_cases (h : x.call c k = some e) :
    (∃ q, x = .chain ∧ k = .chain q ∧
      e = ⟨((c.call q).state, .chain), (c.call q).events,
        (c.call q).outcome.map fun _ => .nothing⟩) ∨
    (∃ r q, x = .response r ∧ k = .response q ∧
      e = ⟨((r.call c q).state.1, .response (r.call c q).state.2), (r.call c q).events,
        (r.call c q).outcome⟩) ∨
    ∃ s q j, x = .subject s ∧ k = .subject q ∧ s.judge q = some j ∧
      e = ⟨((j.settle c).state, .subject s), (j.settle c).events, (j.settle c).outcome⟩ := by
  match x, k with
  | .chain, .chain q => exact .inl ⟨q, rfl, rfl, (Option.some.inj h).symm⟩
  | .response r, .response q => exact .inr (.inl ⟨r, q, rfl, rfl, (Option.some.inj h).symm⟩)
  | .subject s, .subject q =>
    obtain ⟨m, hm, rfl⟩ := Option.map_eq_some_iff.mp h
    obtain ⟨j, hj, hrun⟩ := Subject.exists_judge hm
    exact .inr (.inr ⟨s, q, j, rfl, rfl, hj, by rw [hrun c]⟩)
  | .chain, .response _ | .chain, .subject _ | .response _, .chain _ | .response _, .subject _
  | .subject _, .chain _ | .subject _, .response _ => exact absurd h (by simp [call])

/-- The chain after a call depends on the request alone. -/
theorem call_state (h : x.call c k = some e) : e.state.1 = c.after (x.request k) := by
  rcases call_cases h with ⟨q, rfl, rfl, rfl⟩ | ⟨r, q, rfl, rfl, rfl⟩ | ⟨s, q, j, rfl, rfl, hj, rfl⟩
  · exact c.call_state q
  · exact r.call_state c q
  · simpa [request, hj] using j.settle_state c

/-- What a call tells the reporter depends on the request alone. -/
theorem call_told (hr : c.reporter.returns = true) (h : x.call c k = some e) :
    c.reporter.received e.events = c.told (x.request k) := by
  rcases call_cases h with ⟨q, rfl, rfl, rfl⟩ | ⟨r, q, rfl, rfl, rfl⟩ | ⟨s, q, j, rfl, rfl, hj, rfl⟩
  · exact Chain.call_told hr q
  · exact r.call_told hr q
  · simpa [request, hj] using j.settle_told hr

/-- A call that the item does not have wants nothing. -/
theorem request_of_call_none (h : x.call c k = none) : x.request k = .nothing := by
  match x, k with
  | .subject s, .subject q =>
    have hj : s.judge q = none := Subject.judge_eq_none (by simpa [call] using h)
    simp [request, hj]
  | .chain, .chain _ | .response _, .response _ => exact absurd h (by simp [call])
  | .chain, .response _ | .chain, .subject _ | .response _, .chain _ | .response _, .subject _
  | .subject _, .chain _ | .subject _, .response _ => rfl

end Item

/-! ### Kinds of requested failures -/

theorem Request.ofFound_eq_fail {α : Type} {found : Except Failure α} {f : Failure}
    (h : ofFound found = .fail f) : found = .error f := by
  cases found with
  | ok a => simp [ofFound] at h
  | error e =>
    obtain rfl : e = f := by simpa [ofFound] using h
    rfl

theorem Judgement.check_kind {v : Verdict} {f : Failure}
    (hv : FailsOnly Mismatched (Verdict.found Reply.nothing v))
    (h : (Judgement.check v).request = .fail f) : f.kind = .valueMismatch :=
  hv f (Request.ofFound_eq_fail h)

theorem Judgement.derive_kind {found : Except Failure Subject} {placeholder : Subject}
    {f : Failure} (hfound : FailsOnly Mismatched found)
    (h : (Judgement.derive found placeholder).request = .fail f) : f.kind = .valueMismatch :=
  hfound f (Request.ofFound_eq_fail h)

/-- Subjects fail their chain with mismatches alone. -/
theorem Subject.judge_kind {s : Subject} {k : Call} {j : Judgement} {f : Failure}
    (hj : s.judge k = some j) (h : j.request = .fail f) : f.kind = .valueMismatch := by
  cases s <;> cases k <;> simp only [judge, Option.some.injEq, reduceCtorEq] at hj <;> subst hj
  case headers.checkHeaders q =>
    cases q <;> exact Judgement.check_kind (failsOnly_require (by rfl) _) h
  case headers.headerValue =>
    exact Judgement.derive_kind (failsOnly_map (HeadersCheck.failsOnly_firstValue _ _) _) h
  case text.checkText q => exact Judgement.check_kind (q.failsOnly _ _) h
  case body.checkBody q =>
    cases q <;> exact Judgement.check_kind (failsOnly_require (by rfl) _) h
  case value.checkValue q => exact Judgement.check_kind (q.failsOnly _ _) h
  case value.toObject | value.toArray | value.toText | value.toNumber | value.toBoolean =>
    exact Judgement.derive_kind (failsOnly_map (failsOnly_typedPart _ _ _) _) h
  case object.checkObject q => exact Judgement.check_kind (q.failsOnly _ _) h
  case object.member =>
    exact Judgement.derive_kind (failsOnly_map (ObjectCheck.failsOnly_member _ _) _) h
  case array.checkArray q => exact Judgement.check_kind (q.failsOnly _ _) h
  case array.element =>
    exact Judgement.derive_kind (failsOnly_map (ArrayCheck.failsOnly_element _ _) _) h
  case number.checkNumber q =>
    cases q <;> exact Judgement.check_kind (failsOnly_require (by rfl) _) h
  case boolean.checkBoolean => exact Judgement.check_kind (failsOnly_require (by rfl) _) h
  all_goals cases h

end Attest
