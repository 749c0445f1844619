import Attest.Proofs.Response.Recut
import Attest.Proofs.Session.Called

/-!
Bodies are read once.

What a response has for a body is its stream, which is there until a call first goes on with it, and
from then on the bytes that it gave. Each step of a session keeps it so (`readsOnce_step`), whatever
else the session does, and so does a run (`run_holdsStream`).
-/

namespace Attest

theorem Chain.kind_of_fails {c : Chain} {q : Request} (hok : c.failed = false)
    (hf : (c.after q).failed = true) : ∃ f, q = .fail f ∧ (c.after q).kind = some f.kind := by
  cases q with
  | nothing => simp [hok] at hf
  | fail f => exact ⟨f, rfl, by simp [after, hok]⟩
  | reset => simp [after] at hf

/-- Whether the item is a subject. -/
def Item.isSubject : Item → Bool
  | .subject _ => true
  | _ => false

namespace Session

variable {s : Session} {t : Step} {q : Called} {n : String} {id : Nat} {r : Response}
  {stream : Option (List Chunk)}

/-- Whether the response of that name has its stream still. -/
def hasBody (s : Session) (n : String) : Bool :=
  match s.object? n with
  | some (.item _ (.response r)) => r.body.hasStream
  | _ => false

/-- The response of that name is `r`, but for its body, which had this stream. -/
def HoldsStream (s : Session) (n : String) (id : Nat) (r : Response)
    (stream : Option (List Chunk)) : Prop :=
  ∃ b : BodyState, s.object? n = some (.item id (.response { r with body := b })) ∧
    b.OfStream stream

/-- What a step may do with the stream of a response. -/
structure ReadsOnce (s : Session) (t : Step) (n : String) (id limit : Nat)
    (stream : Option (List Chunk)) : Prop where
  never_back : (s.step t).1.hasBody n = true → s.hasBody n = true
  /-- The stream goes in a call on an OK chain that goes on with the body. -/
  taken : s.hasBody n = true → (s.step t).1.hasBody n = false →
    ∃ c r k, s.called? t = some ⟨n, id, c, .response r, .response k⟩ ∧ c.failed = false ∧
      k.reads = true
  /-- If it breaks off there, the call fails the chain, and that is all that is reported. -/
  breaks : ∀ q message, s.called? t = some q → s.hasBody n = true →
    (s.step t).1.hasBody n = false → bodyFault? stream = some message →
    (s.step t).2.chain = some (q.chain.after (.fail (BodyState.readFailure message))) ∧
      (s.step t).2.events = q.chain.reporter.events (BodyState.readFailure message).text
  /-- No other call on the response or on a subject fails like that. -/
  breaks_only : ∀ q c, s.called? t = some q → q.on = n ∨ q.item.isSubject = true →
    q.chain.failed = false → (s.step t).2.chain = some c → c.failed = true →
    c.kind = some .bodyReadFailure →
    s.hasBody n = true ∧ (s.step t).1.hasBody n = false ∧ (bodyFault? stream).isSome
  /-- Asked for on an OK chain, the body is handed out with its bytes, unless a report of the break
  stops the call. -/
  gives : ∀ c r, s.called? t = some ⟨n, id, c, .response r, .response .body⟩ →
    c.failed = false →
    (s.step t).2.ending = .object (.item id (.subject (.body (bodyBytes stream) limit))) ∨
      ∃ message p, s.hasBody n = true ∧ bodyFault? stream = some message ∧
        c.reporter.outcome (BodyState.readFailure message).text = .panicked p ∧
        (s.step t).2.ending = .panicked p

theorem hasBody_of_object? (ho : s.object? n = some (.item id (.response r))) :
    s.hasBody n = r.body.hasStream := by
  simp only [hasBody, ho]

theorem conclude_ending_subject {on as : String} {e : Effect (Chain × Item) Reply} {x : Subject}
    (h : e.outcome = .returned (.subject x)) :
    (s.conclude on id e as).2.ending = .object (.item id (.subject x)) := by
  simp only [conclude, h, hand]

theorem conclude_ending_panicked {on as : String} {e : Effect (Chain × Item) Reply} {p : String}
    (h : e.outcome = .panicked p) : (s.conclude on id e as).2.ending = .panicked p := by
  simp only [conclude, h]

/-! ### One step -/

/-- A step that leaves the stream where it is keeps to the rules, if it does not hand out the body
and does not fail for want of it. -/
theorem readsOnce_of_same {limit : Nat} (hsame : (s.step t).1.hasBody n = s.hasBody n)
    (hbody : ∀ c r, s.called? t ≠ some ⟨n, id, c, .response r, .response .body⟩)
    (hkind : ∀ q c, s.called? t = some q → q.on = n ∨ q.item.isSubject = true →
      q.chain.failed = false → (s.step t).2.chain = some c → c.failed = true →
      c.kind ≠ some .bodyReadFailure) :
    s.ReadsOnce t n id limit stream where
  never_back h := hsame ▸ h
  taken h h' := by
    rw [hsame, h] at h'
    exact absurd h' (by decide)
  breaks _ _ _ h h' _ := by
    rw [hsame, h] at h'
    exact absurd h' (by decide)
  breaks_only q c hq hwho hok hc hf hk := absurd hk (hkind q c hq hwho hok hc hf)
  gives c r hq _ := absurd hq (hbody c r)

/-- A subject does not fail its chain for want of a body. -/
theorem subject_kind {c : Chain} (hq : s.called? t = some q) (hsubject : q.item.isSubject = true)
    (hok : q.chain.failed = false) (hc : (s.step t).2.chain = some c) (hf : c.failed = true) :
    c.kind ≠ some .bodyReadFailure := by
  obtain ⟨on, id, d, x, k⟩ := q
  cases he : x.call d k with
  | none =>
    obtain ⟨_, _, _, _, hd⟩ := called?_eq_some hq
    rw [step_of_no_call hq he] at hc
    obtain rfl : d = c := Option.some.inj (hd.symm.trans hc)
    exact absurd (hok.symm.trans hf) (by decide)
  | some e =>
    rw [step_of_call hq he, conclude_chain, Item.call_state he] at hc
    obtain rfl := Option.some.inj hc
    obtain ⟨f, hrequest, hkind⟩ := Chain.kind_of_fails hok hf
    match x, k with
    | .subject y, .subject k =>
      simp only [Item.request] at hrequest
      split at hrequest
      next j hj =>
        rw [hkind, Subject.judge_kind hj hrequest]
        decide
      next => cases hrequest
    | .subject _, .chain _ | .subject _, .response _ => cases hrequest
    | .chain, _ | .response _, _ => simp [Item.isSubject] at hsubject

/-- A step that calls the response reads its body as the call does. -/
theorem readsOnce_of_call {c : Chain} {k : ResponseCall} (hb : r.body.OfStream stream)
    (hn : n ≠ t.name) (hq : s.called? t = some ⟨n, id, c, .response r, .response k⟩) :
    s.ReadsOnce t n id r.previewLimit stream ∧ (s.step t).1.HoldsStream n id r stream := by
  obtain ⟨_, _, _, ho, _⟩ := called?_eq_some hq
  have hbefore : s.hasBody n = r.body.hasStream := hasBody_of_object? ho
  have hstep := step_of_call hq rfl
  have hobject : (s.step t).1.object? n = some (.item id (.response (r.call c k).state.2)) := by
    rw [hstep, conclude_object? _ _ _ _ hn, if_pos rfl]
  have hafter : (s.step t).1.hasBody n = (r.call c k).state.2.body.hasStream :=
    hasBody_of_object? hobject
  have hchain : (s.step t).2.chain = some (r.call c k).state.1 := by
    rw [hstep, conclude_chain]
  refine ⟨⟨?_, ?_, ?_, ?_, ?_⟩, _, hobject, r.call_ofStream hb c k⟩
  · rw [hafter, hbefore]
    intro h
    rcases r.call_body c k with hsame | ⟨hok, -, goOn, hk⟩
    · exact hsame ▸ h
    · rw [r.call_hasStream hok hk] at h
      exact absurd h (by decide)
  · rw [hafter, hbefore]
    intro h hgone
    rcases r.call_body c k with hsame | ⟨hok, hreads, -⟩
    · rw [hsame, h] at hgone
      exact absurd hgone (by decide)
    · exact ⟨c, r, k, hq, hok, hreads⟩
  · intro q message hq' h hgone hfault
    obtain rfl := Option.some.inj (hq.symm.trans hq')
    rw [hbefore] at h
    rw [hafter] at hgone
    obtain ⟨hafter, htold, -⟩ := Response.call_of_fault hb hfault h hgone
    refine ⟨by rw [hchain, hafter], ?_⟩
    rw [hstep, conclude_events]
    exact htold
  · intro q d hq' _ hok hd hf hk
    obtain rfl := Option.some.inj (hq.symm.trans hq')
    obtain rfl := Option.some.inj (hchain.symm.trans hd)
    rw [Response.call_state] at hf hk
    obtain ⟨f, hrequest, hkind⟩ := Chain.kind_of_fails hok hf
    have hfound := Request.ofFound_eq_fail hrequest
    have hbody : f.kind = .bodyReadFailure := Option.some.inj (hkind.symm.trans hk)
    obtain ⟨hstream, hgone, hfault⟩ := Response.fault_of_call hb hok hfound hbody
    exact ⟨hbefore.trans hstream, hafter.trans hgone, hfault⟩
  · intro d r' hq' hok
    obtain ⟨rfl, rfl, rfl⟩ : c = d ∧ r = r' ∧ k = .body := by
      simpa using hq.symm.trans hq'
    rw [hstep]
    -- the bytes are kept already, or the stream is read to its end, or it breaks off
    cases hs : r.body.hasStream with
    | false =>
      obtain ⟨-, hout⟩ := Response.call_body_of_ok hb hok (by simp [hs])
      exact .inl (conclude_ending_subject hout)
    | true =>
      cases hfault : bodyFault? stream with
      | none =>
        obtain ⟨-, hout⟩ := Response.call_body_of_ok hb hok fun _ => hfault
        exact .inl (conclude_ending_subject hout)
      | some message =>
        have hgone := r.call_hasStream (k := .body) hok rfl
        obtain ⟨-, -, hout⟩ := Response.call_of_fault hb hfault hs hgone
        rw [bodyBytes_of_fault hfault]
        cases hreport : c.reporter.outcome (BodyState.readFailure message).text with
        | returned u =>
          rw [hreport] at hout
          exact .inl (conclude_ending_subject hout)
        | panicked p =>
          rw [hreport] at hout
          exact .inr ⟨message, p, hbefore.trans hs, rfl, hreport, conclude_ending_panicked hout⟩

/-- The response is where it was, but for its body, and the step kept to the rules. -/
theorem readsOnce_step (ho : s.object? n = some (.item id (.response r)))
    (hb : r.body.OfStream stream) (hn : n ≠ t.name) :
    s.ReadsOnce t n id r.previewLimit stream ∧ (s.step t).1.HoldsStream n id r stream := by
  have unmoved (hobject : (s.step t).1.object? n = s.object? n)
      (hother : ∀ q, s.called? t = some q → q.on ≠ n) :
      s.ReadsOnce t n id r.previewLimit stream ∧ (s.step t).1.HoldsStream n id r stream := by
    refine ⟨readsOnce_of_same (by simp only [hasBody, hobject]) ?_ ?_, r.body, hobject.trans ho, hb⟩
    · exact fun c r' hq => hother _ hq rfl
    · intro q c hq hwho
      rcases hwho with hon | hsubject
      · exact absurd hon (hother q hq)
      · exact subject_kind hq hsubject
  cases hq : s.called? t with
  | none => exact unmoved ((step_of_not_called hq).2 n hn) (by simp [hq])
  | some q =>
    obtain ⟨on, id', c, x, k⟩ := q
    obtain ⟨_, _, _, ho', hc⟩ := called?_eq_some hq
    by_cases hon : n = on
    · subst hon
      obtain ⟨rfl, rfl⟩ : id = id' ∧ Item.response r = x := by simpa using ho.symm.trans ho'
      match k with
      | .response k => exact readsOnce_of_call hb hn hq
      | .chain k | .subject k =>
        -- responses have no such call, so the step is refused
        have hstep := step_of_no_call hq rfl
        refine ⟨readsOnce_of_same (by rw [hstep]; rfl) (by simp [hq]) ?_, r.body, ?_, hb⟩
        · intro q d hq' _ hok hd hf
          obtain rfl := Option.some.inj (hq.symm.trans hq')
          rw [hstep] at hd
          obtain rfl : c = d := Option.some.inj (hc.symm.trans hd)
          exact absurd (hok.symm.trans hf) (by decide)
        · rw [hstep]
          exact ho
    · refine unmoved ?_ (by simpa [hq] using Ne.symm hon)
      -- the call is on another item, whose name is not that of the response
      cases he : x.call c k with
      | none => rw [step_of_no_call hq he]; rfl
      | some e => rw [step_of_call hq he, conclude_object? _ _ _ _ hn, if_neg hon]

/-! ### Runs -/

theorem run_append (s : Session) (pre post : List Step) :
    (s.run (pre ++ post)).1 = ((s.run pre).1.run post).1 := by
  induction pre generalizing s with
  | nil => rfl
  | cons t pre ih => exact ih (s.step t).1

/-- Over a run the response is where it was, but for its body. -/
theorem run_holdsStream {steps : List Step} (hs : s.HoldsStream n id r stream)
    (hn : ∀ t ∈ steps, n ≠ t.name) : (s.run steps).1.HoldsStream n id r stream := by
  induction steps generalizing s with
  | nil => exact hs
  | cons t rest ih =>
    obtain ⟨b, ho, hb⟩ := hs
    obtain ⟨-, hstep⟩ := readsOnce_step ho hb (hn t (by simp))
    exact ih hstep fun t' ht' => hn t' (by simp [ht'])

/-- A stream that is there after a run was there before. -/
theorem run_hasBody {steps : List Step} (hs : s.HoldsStream n id r stream)
    (hn : ∀ t ∈ steps, n ≠ t.name) (h : (s.run steps).1.hasBody n = true) :
    s.hasBody n = true := by
  induction steps generalizing s with
  | nil => exact h
  | cons t rest ih =>
    obtain ⟨b, ho, hb⟩ := hs
    obtain ⟨hrules, hstep⟩ := readsOnce_step ho hb (hn t (by simp))
    exact hrules.never_back (ih hstep (fun t' ht' => hn t' (by simp [ht'])) h)

/-- CORRECT: in any run that does not take its name away, a new response has its stream until a call
on an OK chain first goes on with the body, and never again; each call for the body on an OK chain
hands out the same bytes, and only the call in which the stream breaks off fails for it (where the
report of that stops the call, it hands out nothing). How streams are cut makes no difference to any
run, and one that does not break off may as well come in one chunk. -/
theorem body_read_once (s : Session) (n : String) (id : Nat) (r : Response)
    (stream : Option (List Chunk)) (steps : List Step)
    (ho : s.object? n = some (.item id (.response r))) (hb : r.body = .unread stream)
    (hn : ∀ t ∈ steps, n ≠ t.name) :
    (∀ pre mid post, steps = pre ++ mid ++ post →
      (s.run (pre ++ mid)).1.hasBody n = true → (s.run pre).1.hasBody n = true) ∧
    (∀ pre t post, steps = pre ++ t :: post →
      (s.run pre).1.ReadsOnce t n id r.previewLimit stream) ∧
    (∀ (s' : Session) (steps' steps'' : List Step), List.Forall₂ Step.Recut steps' steps'' →
      (s'.run steps').2.map Answer.whole = (s'.run steps'').2.map Answer.whole) ∧
    ∀ (cs : List Chunk), Chunks.fault? cs = none → ∀ origin status fields preview as,
      Step.Recut (.make (.response origin status fields (some cs) preview) as)
        (.make (.response origin status fields (some [.data (Chunks.bytes cs)]) preview) as) := by
  have hs : s.HoldsStream n id r stream :=
    ⟨r.body, ho, by rw [hb]; exact BodyState.ofStream_unread stream⟩
  refine ⟨?_, ?_, fun s' _ _ h => (run_recut h s').2, fun cs h => Step.recut_single h⟩
  · rintro pre mid post rfl h
    have hpre : (s.run pre).1.HoldsStream n id r stream :=
      run_holdsStream hs fun t ht => hn t (by simp [ht])
    rw [run_append] at h
    exact run_hasBody hpre (fun t ht => hn t (by simp [ht])) h
  · rintro pre t post rfl
    have hpre : (s.run pre).1.HoldsStream n id r stream :=
      run_holdsStream hs fun t' ht' => hn t' (by simp [ht'])
    obtain ⟨b, ho', hb'⟩ := hpre
    exact (readsOnce_step ho' hb' (hn t (by simp))).1

/-- Two letters in two chunks, with an interruption between them and a break after the end. -/
def pieces : List Chunk :=
  [.data [0x61], .interrupted, .data [0x62], .data [], .broken "late"]

/-- The body is asked for on an OK chain, on a failed one, and again after a reset. -/
def asks : List Step :=
  [.call "r" (.item (.response .body)) "b",
    .call chainName (.item (.chain (.fail (.value "early")))) "_",
    .call "r" (.item (.response .body)) "b",
    .call chainName (.item (.chain .reset)) "_",
    .call "r" (.item (.response .body)) "b"]

theorem body_read_once_in_pieces :
    let s := (start (.empty "/")).step
      (.make (.response (.chain chainName) 200 [] (some pieces) none) "r") |>.1
    let r : Response := { status := .ok, headers := .empty, body := .unread (some pieces) }
    s.object? "r" = some (.item 0 (.response r)) ∧ (∀ t ∈ asks, "r" ≠ t.name) ∧
      bodyBytes (some pieces) = [0x61, 0x62] ∧ s.hasBody "r" = true ∧
      (s.run (asks.take 1)).1.hasBody "r" = false ∧
      (s.run (asks.take 4)).1.ReadsOnce (.call "r" (.item (.response .body)) "b") "r" 0
        defaultPreview (some pieces) := by
  intro s r
  have hn : ∀ t ∈ asks, "r" ≠ t.name := by decide
  have h := body_read_once s "r" 0 r (some pieces) asks rfl rfl hn
  exact ⟨rfl, hn, rfl, rfl, rfl, h.2.1 (asks.take 4) _ [] rfl⟩

/-- Where a report panics, the call in which a stream breaks off hands out no body. -/
theorem body_lost_to_panic :
    ¬ ∀ (s : Session) (t : Step) (n : String) (id : Nat) (c : Chain) (r : Response),
      s.called? t = some ⟨n, id, c, .response r, .response .body⟩ → c.failed = false →
        ∃ bytes limit, (s.step t).2.ending = .object (.item id (.subject (.body bytes limit))) := by
  intro h
  let s := (start (.empty "/")).step
    (.make (.response (.reporter .panic) 200 [] (some [.broken "connection reset"]) none) "r") |>.1
  obtain ⟨bytes, limit, hending⟩ :=
    h s (.call "r" (.item (.response .body)) "b") "r" 1 _ _ rfl rfl
  cases hending

end Session

end Attest
