import Attest.Proofs.Response.Plan

/-!
Calls under a reporter that panics.

A chain is marked before its failure is reported. So a report that panics stops the call it comes
from, and that is all: the chain is left as it would be, the panic is the message that a recording
would hold (`Echoes`), and what a response is left with behaves as what it would be left with
(`BodyState.Alike`), although the bytes of a body that broke off are not kept.
-/

namespace Attest

/-- The chain with a reporter that panics. -/
def Chain.panicking (c : Chain) : Chain := { c with reporter := .panic }

/-- How a call ends where reports are kept, and where they panic: it gives the same and reports
nothing, or it reports one message and that is the panic. -/
inductive Echoes {α : Type} : (reports : List String) → Outcome α → Outcome α → Prop
  | silent (a : α) : Echoes [] (.returned a) (.returned a)
  | aloud (a : α) (message : String) : Echoes [message] (.returned a) (.panicked message)

theorem Echoes.map {α β : Type} {reports : List String} {o o' : Outcome α}
    (h : Echoes reports o o') (f : α → β) : Echoes reports (o.map f) (o'.map f) := by
  cases h with
  | silent a => exact .silent (f a)
  | aloud a message => exact .aloud (f a) message

theorem Echoes.returned {α : Type} {reports : List String} {o o' : Outcome α}
    (h : Echoes reports o o') : ∃ a, o = .returned a := by
  cases h with
  | silent a => exact ⟨a, rfl⟩
  | aloud a message => exact ⟨a, rfl⟩

/-! ### Chains -/

namespace Chain

variable {α : Type} {c : Chain}

@[simp] theorem panicking_failed (c : Chain) : c.panicking.failed = c.failed := rfl

theorem panicking_after (c : Chain) (q : Request) :
    c.panicking.after q = (c.after q).panicking := by
  cases q with
  | nothing | reset => rfl
  | fail f => cases hf : c.failed <;> simp [after, panicking, hf]

theorem fail_echoes (hr : c.reporter = .recording) (hok : c.failed = false) (f : Failure) :
    Echoes (Reporter.recording.received (c.fail f).events) (c.fail f).outcome
      (c.panicking.fail f).outcome := by
  simp only [fail, panicking_failed, hok, hr]
  exact .aloud () f.text

theorem settle_echoes (hr : c.reporter = .recording) (found : Except Failure α)
    (placeholder : α) :
    Echoes (Reporter.recording.received (c.settle found placeholder).events)
      (c.settle found placeholder).outcome (c.panicking.settle found placeholder).outcome := by
  cases hf : c.failed with
  | true =>
    rw [settle_of_failed hf, settle_of_failed (by simpa using hf)]
    exact .silent placeholder
  | false =>
    cases found with
    | ok a =>
      rw [settle_ok a _ hf, settle_ok a _ (by simpa using hf)]
      exact .silent a
    | error f =>
      rw [settle_error f _ hf, settle_error f _ (by simpa using hf)]
      exact (fail_echoes hr hf f).map fun _ => placeholder

end Chain

/-- Whether the call asserts something about the chain itself, and panics where it does not hold. -/
def ItemCall.isDemand : ItemCall → Bool
  | .chain .requireOk | .chain .requireFailed => true
  | _ => false

theorem Chain.call_echoes {c : Chain} (hr : c.reporter = .recording) {k : ChainCall}
    (hk : (ItemCall.chain k).isDemand = false) :
    Echoes (Reporter.recording.received (c.call k).events) (c.call k).outcome
      (c.panicking.call k).outcome := by
  cases k with
  | fail f =>
    cases hf : c.failed with
    | true =>
      simp only [call, fail, panicking_failed, hf]
      exact .silent ()
    | false => exact fail_echoes hr hf f
  | reset => exact .silent ()
  | requireOk | requireFailed => simp [ItemCall.isDemand] at hk

theorem Judgement.settle_echoes {c : Chain} (hr : c.reporter = .recording) (j : Judgement) :
    Echoes (Reporter.recording.received (j.settle c).events) (j.settle c).outcome
      (j.settle c.panicking).outcome := by
  rw [j.settle_found, j.settle_found]
  exact Chain.settle_echoes hr ..

/-! ### Bodies -/

namespace BodyState

/-- The body that a call left where reports are kept, and the one that it left where they panic:
when the stream breaks off, an empty body is kept, or nothing is. -/
def Alike (b b' : BodyState) : Prop := b = b' ∨ b = .kept [] ∧ b' = .unread none

variable {α : Type} {b b' : BodyState}

theorem Alike.givesSame (h : b.Alike b') : b.GivesSame b' := by
  rcases h with rfl | ⟨rfl, rfl⟩
  · exact fun _ => rfl
  · exact fun _ => rfl

theorem Alike.hasStream_eq (h : b.Alike b') : b.hasStream = b'.hasStream := by
  rcases h with rfl | ⟨rfl, rfl⟩ <;> rfl

/-- Bodies stay alike, whether the call that goes on with the second one is stopped or not. -/
theorem Alike.visit (h : b.Alike b') (goOn : List UInt8 → Except Failure α) :
    (b.visit goOn).body.Alike (b'.visit goOn).body ∧
      (b.visit goOn).body.Alike (b'.visit goOn).abandoned := by
  rcases h with rfl | ⟨rfl, rfl⟩
  · match b with
    | .kept _ | .unread none => exact ⟨.inl rfl, .inl rfl⟩
    | .unread (some stream) =>
      simp only [BodyState.visit]
      cases contents stream with
      | ok bytes => exact ⟨.inl rfl, .inl rfl⟩
      | error message => exact ⟨.inl rfl, .inr ⟨rfl, rfl⟩⟩
  · exact ⟨.inl rfl, .inl rfl⟩

end BodyState

/-! ### Responses -/

/-- Settling two visits that found the same. The one whose report panics leaves the body that it had
when it was stopped. -/
theorem Visit.settle_echoes {α : Type} {c : Chain} {v v' : Visit α}
    (hr : c.reporter = .recording) (hfound : v.found = v'.found)
    (hquiet : Reporter.recording.received v.events = []) (placeholder : α) :
    Echoes (Reporter.recording.received (v.settle c placeholder).events)
        (v.settle c placeholder).outcome (v'.settle c.panicking placeholder).outcome ∧
      (v.settle c placeholder).state.2 = v.body ∧
      ((v'.settle c.panicking placeholder).state.2 = v'.body ∨
        (v'.settle c.panicking placeholder).state.2 = v'.abandoned) := by
  have hechoes := Chain.settle_echoes hr v.found placeholder
  obtain ⟨a, ha⟩ := hechoes.returned
  refine ⟨?_, by simp only [settle, ha], v'.settle_body c.panicking placeholder⟩
  simpa [settle, hquiet, ← hfound] using hechoes

namespace Response

variable {c : Chain} {b b' : BodyState}

theorem visit_alike (r : Response) (h : b.Alike b') (k : ResponseCall) :
    ({ r with body := b }.visit k).body.Alike ({ r with body := b' }.visit k).body ∧
      ({ r with body := b }.visit k).body.Alike ({ r with body := b' }.visit k).abandoned := by
  rcases r.visit_plan k with ⟨found, hk⟩ | ⟨goOn, hk⟩
  · rw [hk, hk]
    exact ⟨h, h⟩
  · rw [hk, hk]
    exact h.visit goOn

/-- The two calls on a response whose bodies are alike. -/
theorem call_echoes (r : Response) (h : b.Alike b') (hr : c.reporter = .recording)
    (k : ResponseCall) :
    Echoes (Reporter.recording.received ({ r with body := b }.call c k).events)
        ({ r with body := b }.call c k).outcome
        ({ r with body := b' }.call c.panicking k).outcome ∧
      ∃ d d', d.Alike d' ∧ ({ r with body := b }.call c k).state.2 = { r with body := d } ∧
        ({ r with body := b' }.call c.panicking k).state.2 = { r with body := d' } := by
  cases hf : c.failed with
  | true =>
    rw [call_of_failed _ k hf, call_of_failed _ k (by simpa using hf)]
    exact ⟨.silent k.placeholder, b, b', h, rfl, rfl⟩
  | false =>
    have hremains : { r with body := b' }.remains k = { r with body := b }.remains k := by
      cases k <;> rfl
    rw [call_of_ok _ k hf, call_of_ok _ k (by simpa using hf), hremains]
    obtain ⟨hechoes, hleft, hleft'⟩ := Visit.settle_echoes hr (r.visit_found_congr h.givesSame k)
      ({ r with body := b }.visit_told .recording k) ({ r with body := b }.remains k)
    obtain ⟨hbody, habandoned⟩ := r.visit_alike h k
    refine ⟨hechoes, _, _, ?_, rfl, rfl⟩
    rw [hleft]
    rcases hleft' with hleft' | hleft' <;> rw [hleft'] <;> assumption

end Response

/-! ### Items -/

namespace Item

/-- The same item, but for what a panic has done to its body. -/
inductive Alike : Item → Item → Prop
  | chain : Alike .chain .chain
  | subject (s : Subject) : Alike (.subject s) (.subject s)
  | response (r : Response) {b b' : BodyState} (h : b.Alike b') :
    Alike (.response { r with body := b }) (.response { r with body := b' })

variable {c : Chain} {x y : Item} {k : ItemCall}

theorem Alike.refl (x : Item) : x.Alike x := by
  cases x with
  | chain => exact .chain
  | subject s => exact .subject s
  | response r => exact .response r (.inl rfl)

theorem Alike.request_eq (h : x.Alike y) (k : ItemCall) : y.request k = x.request k := by
  cases h with
  | chain | subject => rfl
  | response r h =>
    cases k with
    | response k => exact (congrArg Request.ofFound (r.visit_found_congr h.givesSame k)).symm
    | chain | subject => rfl

/-- Of two items that are alike, one has the calls that the other has. -/
theorem Alike.call_none (h : x.Alike y) (hx : x.call c k = none) (d : Chain) :
    y.call d k = none := by
  cases h with
  | chain => cases k <;> simp_all [call]
  | subject s => cases k <;> simp_all [call]
  | response r h => cases k <;> simp_all [call]

/-- A call, and the same call under a reporter that panics: the chains are left the same and the
items alike, and the panic is the report. -/
theorem Alike.call_echoes (h : x.Alike y) (hr : c.reporter = .recording)
    (hk : k.isDemand = false) {e : Effect (Chain × Item) Reply} (hx : x.call c k = some e) :
    ∃ e', y.call c.panicking k = some e' ∧ e'.state.1 = e.state.1.panicking ∧
      e.state.2.Alike e'.state.2 ∧
      Echoes (Reporter.recording.received e.events) e.outcome e'.outcome := by
  have hchain {e' : Effect (Chain × Item) Reply} (hy : y.call c.panicking k = some e') :
      e'.state.1 = e.state.1.panicking := by
    rw [call_state hx, call_state hy, h.request_eq, Chain.panicking_after]
  cases h with
  | chain =>
    cases k with
    | response | subject => simp [call] at hx
    | chain k =>
      obtain rfl := Option.some.inj hx
      exact ⟨_, rfl, hchain rfl, .chain, (Chain.call_echoes hr hk).map _⟩
  | subject s =>
    cases k with
    | chain | response => simp [call] at hx
    | subject k =>
      obtain ⟨m, hm, rfl⟩ := Option.map_eq_some_iff.mp hx
      obtain ⟨j, -, hrun⟩ := Subject.exists_judge hm
      have hy : (Item.subject s).call c.panicking (.subject k) =
          some ⟨((m c.panicking).state, .subject s), (m c.panicking).events,
            (m c.panicking).outcome⟩ := by
        simp only [call, hm, Option.map_some]
      refine ⟨_, hy, hchain hy, .subject s, ?_⟩
      simpa only [hrun] using j.settle_echoes hr
  | response r h =>
    cases k with
    | chain | subject => simp [call] at hx
    | response k =>
      obtain rfl := Option.some.inj hx
      obtain ⟨hechoes, d, d', hd, hleft, hleft'⟩ := r.call_echoes h hr k
      refine ⟨_, rfl, hchain rfl, ?_, hechoes⟩
      rw [hleft, hleft']
      exact .response r hd

end Item

end Attest
