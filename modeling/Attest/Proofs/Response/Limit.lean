import Attest.Proofs.Response.Outcome
import Attest.Proofs.Response.ReadOnce
import Attest.Proofs.Session.Deed
import Attest.Proofs.Subject.Excerpt

/-!
The limit of a response, and how much of a body messages quote.

A response gets its limit when it is made and keeps it. It passes the limit on to the body that it
hands out on an OK chain, also where the stream broke off; the one that it hands out on a failed
chain has the limit of all responses that are made without one (`Response.bodyLimit`). A body keeps
its limit, and by it messages quote bytes (`Session.body_quotes_within_limit`).
-/

namespace Attest

/-! ### Where a body gets its limit -/

namespace Response

/-- The limit of the body that is handed out on this chain. -/
def bodyLimit (r : Response) (c : Chain) : Nat :=
  if c.failed = true then defaultPreview else r.previewLimit

/-- Whatever there is of the body, it is handed out with the limit for the chain. -/
theorem call_body_limit {r : Response} {c : Chain} {y : Subject}
    (h : (r.call c .body).outcome = .returned (.subject y)) :
    ∃ bytes, y = .body bytes (r.bodyLimit c) := by
  cases hf : c.failed with
  | true =>
    rw [r.call_of_failed .body hf] at h
    cases h
    exact ⟨[], by simp [bodyLimit, hf, Subject.noBody]⟩
  | false =>
    have hlimit : r.bodyLimit c = r.previewLimit := by simp [bodyLimit, hf]
    rw [hlimit]
    cases hfault : r.body.fault? with
    | none =>
      have hfound : (r.visit .body).found =
          .ok (.subject (.body r.body.bytes r.previewLimit)) :=
        BodyState.visit_found_of_no_fault hfault _
      cases (call_gives hf hfound).outcome.symm.trans h
      exact ⟨r.body.bytes, rfl⟩
    | some message =>
      have hfound : (r.visit .body).found = .error (BodyState.readFailure message) :=
        BodyState.visit_found_of_fault hfault _
      cases (call_fails hf hfound).of_returned h
      exact ⟨[], rfl⟩

end Response

/-! ### Checks on a body -/

theorem Judgement.check_events (v : Verdict) (c : Chain) :
    ((Judgement.check v).settle c).events =
      if c.failed = true then [] else v.elim [] fun f => c.reporter.events f.text := by
  rw [Judgement.settle_found]
  cases hf : c.failed with
  | true => rw [Chain.settle_of_failed hf]; rfl
  | false =>
    cases v with
    | none => simp [found, Verdict.found, Chain.settle_ok _ _ hf, Effect.pure]
    | some f => simp [found, Verdict.found, Chain.settle_error _ _ hf, Effect.map, Chain.fail, hf]

namespace Session

variable {s : Session} {t : Step} {n b : String} {id : Nat} {c : Chain} {x : Item} {y : Subject}

/-- What a check on a body has for events. -/
theorem step_checkBody_events {bytes : List UInt8} {limit : Nat}
    (ho : s.object? b = some (.item id (.subject (.body bytes limit))))
    (hc : s.chains[id]? = some c) (k : BodyCheck) (as : String) :
    (s.step (.call b (.item (.subject (.checkBody k))) as)).2.events =
      if c.failed = true then []
      else (k.verdict bytes limit).elim [] fun f => c.reporter.events f.text := by
  have hrun : Subject.asserting (Act.check (k.verdict bytes limit)) c =
      (Judgement.check (k.verdict bytes limit)).settle c := Subject.asserting_run rfl
  rw [(step_keeps ho hc _ as).answer, ← Judgement.check_events, ← hrun]
  rfl

/-- Subjects stay as they are. -/
theorem step_subject (ho : s.object? n = some (.item id (.subject y))) (hn : n ≠ t.name) :
    (s.step t).1.object? n = some (.item id (.subject y)) := by
  cases hq : s.called? t with
  | none => exact ((step_of_not_called hq).2 n hn).trans ho
  | some q =>
    cases he : q.item.call q.chain q.call with
    | none => rw [step_of_no_call hq he]; exact ho
    | some e =>
      rw [step_of_call hq he, conclude_object? _ _ _ _ hn]
      split
      next hon =>
        obtain ⟨_, _, _, ho', _⟩ := called?_eq_some hq
        rw [← hon, ho] at ho'
        obtain ⟨hid, hx⟩ : id = q.id ∧ Item.subject y = q.item := by simpa using ho'
        rcases Item.call_cases he with ⟨_, hx', _⟩ | ⟨_, _, hx', _⟩ | ⟨_, _, _, hx', _, _, rfl⟩
        · cases hx.trans hx'
        · cases hx.trans hx'
        · rw [hid, hx, hx']
      next => exact ho

theorem run_subject {steps : List Step} (ho : s.object? n = some (.item id (.subject y)))
    (hn : ∀ t ∈ steps, n ≠ t.name) :
    (s.run steps).1.object? n = some (.item id (.subject y)) := by
  induction steps generalizing s with
  | nil => exact ho
  | cons t rest ih =>
    exact ih (step_subject ho (hn t (by simp))) fun t' ht' => hn t' (by simp [ht'])

/-! ### Where a response gets its limit -/

/-- The limit of a response that is made without one of its own. -/
def previewOf (s : Session) : Origin → Nat
  | .settings name =>
    match s.object? name with
    | some (.settings e) => e.bodyPreview
    | _ => defaultPreview
  | _ => defaultPreview

section Made

variable {origin : Origin} {status : Int} {fields : List (List UInt8 × List UInt8)}
  {stream : Option (List Chunk)} {preview : Option Nat}

theorem received_ok {r : Response} (h : received status fields stream = .ok r) :
    r.body = .unread stream ∧ r.previewLimit = defaultPreview := by
  unfold received at h
  split at h
  · cases h
  · split at h
    · cases h
    · cases h
      exact ⟨rfl, rfl⟩

/-- A response is made with the limit that is asked for, or else that of its settings. -/
theorem make_response {s' : Session}
    (h : (s.make (.response origin status fields stream preview)).2 = .ok (s', .item id x)) :
    ∃ r, x = .response r ∧ r.body = .unread stream ∧
      r.previewLimit = preview.getD (s.previewOf origin) := by
  cases hr : received status fields stream with
  | error why => simp [make, hr, refuse] at h
  | ok r =>
    obtain ⟨hbody, hlimit⟩ := received_ok hr
    simp only [make, hr] at h
    cases origin with
    | reporter reporter =>
      cases h
      exact ⟨_, rfl, hbody, by simp only [previewOf, hlimit]⟩
    | chain name =>
      simp only [makeResponse, withChainOf] at h
      split at h
      · cases h
        exact ⟨_, rfl, hbody, by simp only [previewOf, hlimit]⟩
      · cases h
    | settings name =>
      simp only [makeResponse] at h
      split at h
      next e he =>
        cases h
        exact ⟨_, rfl, hbody, by simp only [previewOf, he, Settings.adopt]⟩
      next => cases h

/-- CORRECT. A response is made with the limit that is asked for, or else with that of its settings,
and anything may be done then. Where it hands out a body, this has the limit, if the chain is OK,
and the limit of all responses that are made without one, if it is failed. Whatever is done
afterwards, with the chain reset or not, the checks on the body quote as many bytes of either side
as its limit says, and then say how many more there are. -/
theorem body_quotes_within_limit (s : Session) (origin : Origin) (status : Int)
    (fields : List (List UInt8 × List UInt8)) (stream : Option (List Chunk)) (preview : Option Nat)
    (n b : String) (id : Nat) (x : Item) (before after : List Step)
    (hmade : (s.step (.make (.response origin status fields stream preview) n)).2.ending =
      .object (.item id x))
    (hbefore : ∀ t ∈ before, n ≠ t.name) (hafter : ∀ t ∈ after, b ≠ t.name) :
    let s₁ := ((s.step (.make (.response origin status fields stream preview) n)).1.run before).1
    let s₂ := ((s₁.step (.call n (.item (.response .body)) b)).1.run after).1
    ∀ c y, s₁.chains[id]? = some c → s₁.HandsOut (.call n (.item (.response .body)) b) id y →
      let limit := if c.failed = true then defaultPreview else preview.getD (s.previewOf origin)
      ∃ bytes, y = .body bytes limit ∧ ∀ (k : BodyCheck) message as d,
        s₂.chains[id]? = some d → k.complaint? limit bytes = some message →
        let events := (s₂.step (.call b (.item (.subject (.checkBody k))) as)).2.events
        (d.failed = true ∨ k.Holds bytes → events = []) ∧
          (d.failed = false → ¬ k.Holds bytes →
            events = d.reporter.events ("value mismatch: " ++ message)) := by
  intro s₁ s₂ c y hc hout limit
  obtain ⟨hnamed, s', hmake⟩ := makeAs_named hmade
  obtain ⟨r, rfl, hbody, hlimit⟩ := make_response hmake
  obtain ⟨body, ho, -⟩ : s₁.HoldsStream n id r stream :=
    run_holdsStream ⟨r.body, hnamed, hbody ▸ BodyState.ofStream_unread stream⟩ hbefore
  have hq : s₁.called? (.call n (.item (.response .body)) b) =
      some ⟨n, id, c, .response { r with body := body }, .response .body⟩ := by
    simp [called?, ho, hc, itemCall]
  obtain ⟨bytes, rfl⟩ := Response.call_body_limit ((handsOut_iff hq rfl y).mp hout)
  have hsame : { r with body := body }.bodyLimit c = limit := by
    simp only [Response.bodyLimit, hlimit, limit]
  rw [hsame] at hout ⊢
  refine ⟨bytes, rfl, fun k message as d hd hk => ?_⟩
  have hkept : s₂.object? b = some (.item id (.subject (.body bytes limit))) :=
    run_subject hout.named hafter
  have hevents := step_checkBody_events hkept hd k as
  refine ⟨fun hnone => ?_, fun hok hholds => ?_⟩
  · rcases hnone with hf | hholds
    · simpa [hf] using hevents
    · simpa [BodyCheck.verdict_eq_none_iff.mpr hholds] using hevents
  · simpa [hok, BodyCheck.verdict_of_not_holds hk hholds, Failure.text, Failure.value,
      FailureKind.label] using hevents

end Made

/-- The letters from a to h. -/
def eightLetters : List UInt8 := [0x61, 0x62, 0x63, 0x64, 0x65, 0x66, 0x67, 0x68]

/-- A response with these letters and settings of three bytes, of which the body is taken before its
chain fails and is reset. -/
theorem body_quotes_within_limit_of_three :
    let e : Settings := { reporter := .recording, bodyPreview := 3 }
    let s : Session := (start (.empty "/")).bind "e" (.settings e)
    let made : Step := .make (.response (.settings "e") 200 [] (some [.data eightLetters]) none) "r"
    let after : List Step :=
      [.call "r" .takeChain "rc", .call "rc" (.item (.chain (.fail (.value "early")))) "_",
        .call "rc" (.item (.chain .reset)) "_"]
    let s₂ := (((s.step made).1.step (.call "r" (.item (.response .body)) "b")).1.run after).1
    (∃ x, (s.step made).2.ending = .object (.item 1 x)) ∧ (∀ t ∈ after, "b" ≠ t.name) ∧
      (s₂.step (.call "b" (.item (.subject (.checkBody .empty))) "_")).2.events =
        [.recorded ("value mismatch: " ++ ("expected empty body, but got:\n  " ++
          excerpt 3 eightLetters))] := by
  intro e s made after s₂
  have hafter : ∀ t ∈ after, "b" ≠ t.name := by decide
  obtain ⟨bytes, hbytes, hchecks⟩ := body_quotes_within_limit s (.settings "e") 200 []
    (some [.data eightLetters]) none "r" "b" 1 _ [] after rfl (by simp) hafter _ _ rfl ⟨rfl, rfl⟩
  obtain rfl : eightLetters = bytes := (Subject.body.inj hbytes).1
  exact ⟨⟨_, rfl⟩, hafter, (hchecks .empty _ "_" _ rfl rfl).2 rfl (by simp [BodyCheck.Holds,
    eightLetters])⟩

/-- A body that was taken while the chain was failed quotes more than the limit of its response. -/
theorem placeholder_quotes_beyond_limit :
    ¬ ∀ (s : Session) (n b : String) (id : Nat) (r : Response) (bytes : List UInt8) (l : Nat)
      (after : List Step) (k : BodyCheck) (message as : String) (d : Chain),
      s.object? n = some (.item id (.response r)) →
      s.HandsOut (.call n (.item (.response .body)) b) id (.body bytes l) →
      (∀ t ∈ after, b ≠ t.name) →
      let s₂ := ((s.step (.call n (.item (.response .body)) b)).1.run after).1
      s₂.chains[id]? = some d → d.failed = false → ¬ k.Holds bytes →
      k.complaint? r.previewLimit bytes = some message →
      (s₂.step (.call b (.item (.subject (.checkBody k))) as)).2.events =
        d.reporter.events ("value mismatch: " ++ message) := by
  intro h
  let s := ((start (.empty "/")).run
    [.make (.response (.chain chainName) 200 [] (some [.data [0x78]]) (some 3)) "r",
      .call chainName (.item (.chain (.fail (.value "early")))) "_"]).1
  have hlong := h s "r" "b" 0 _ [] defaultPreview
    [.call chainName (.item (.chain .reset)) "_"] (.equal eightLetters) _ "_" _ rfl ⟨rfl, rfl⟩
    (by decide) rfl rfl (by simp [BodyCheck.Holds, eightLetters]) rfl
  revert hlong
  decide +kernel

end Session

end Attest
