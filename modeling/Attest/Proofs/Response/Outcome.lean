import Attest.Proofs.Response.Stream

/-!
How calls on responses end.

On an OK chain a call gives what it found and leaves the chain alone (`Effect.Gives`), or it fails
the chain and reports this once (`Effect.Fails`). Where the report returns the call hands out its
placeholder, where it panics nothing. A call that goes on with the body finds it whole or broken off
(`BodyState.fault?`).
-/

namespace Attest

/-! ### Two ways to end -/

namespace Effect

variable {σ α : Type}

/-- The call gave its result on an OK chain, and nobody was told anything. -/
structure Gives (e : Effect (Chain × σ) α) (c : Chain) (a : α) : Prop where
  chain : e.state.1 = c
  quiet : ∀ q : Reporter, q.received e.events = []
  outcome : e.outcome = .returned a

/-- The call failed the chain, and its last events are the one report of this; those before tell
nobody anything. It then handed out the placeholder, unless the report stopped it. -/
structure Fails (e : Effect (Chain × σ) α) (c : Chain) (f : Failure) (placeholder : α) : Prop where
  chain : e.state.1 = { c with failed := true, kind := some f.kind }
  report : ∃ before, e.events = before ++ c.reporter.events f.text ∧
    ∀ q : Reporter, q.received before = []
  outcome : e.outcome = (c.reporter.outcome f.text).map fun _ => placeholder

variable {e : Effect (Chain × σ) α} {c : Chain} {f : Failure} {p : α}

/-- A call ends in one way. -/
theorem Gives.not_fails {a : α} (h : e.Gives c a) (hok : c.failed = false) : ¬ e.Fails c f p := by
  intro hfails
  have hchain := hfails.chain.symm.trans h.chain
  rw [← hchain] at hok
  cases hok

/-- A failed call hands out nothing but its placeholder. -/
theorem Fails.of_returned (h : e.Fails c f p) {a : α} (hout : e.outcome = .returned a) : a = p := by
  rw [h.outcome] at hout
  cases hc : c.reporter.outcome f.text with
  | returned u => simpa [hc, Outcome.map, eq_comm] using hout
  | panicked m => simp [hc, Outcome.map] at hout

/-- The call gives the result, or fails with a failure of the kind. -/
def Ends (e : Effect (Chain × σ) α) (c : Chain) (placeholder : α) : Except FailureKind α → Prop
  | .ok a => e.Gives c a
  | .error kind => ∃ f, f.kind = kind ∧ e.Fails c f placeholder

theorem Ends.unique {result result' : Except FailureKind α} (h : e.Ends c p result)
    (h' : e.Ends c p result') (hok : c.failed = false) : result = result' := by
  cases result with
  | ok a =>
    have hgives : e.Gives c a := h
    cases result' with
    | ok a' =>
      have hout := hgives.outcome.symm.trans (Gives.outcome h')
      cases hout
      rfl
    | error kind' =>
      obtain ⟨f', -, hfails'⟩ := h'
      exact absurd hfails' (hgives.not_fails hok)
  | error kind =>
    obtain ⟨f, rfl, hfails⟩ := h
    cases result' with
    | ok a' => exact absurd hfails (Gives.not_fails h' hok)
    | error kind' =>
      obtain ⟨f', rfl, hfails'⟩ := h'
      have hkinds : some f.kind = some f'.kind :=
        congrArg Chain.kind (hfails.chain.symm.trans hfails'.chain)
      rw [Option.some.inj hkinds]

/-- Once the chain is failed, nothing but the placeholder is handed out. -/
theorem Ends.of_returned {result : Except FailureKind α} (h : e.Ends c p result)
    (hok : c.failed = false) (hfailed : e.state.1.failed = true) {a : α}
    (hout : e.outcome = .returned a) : a = p := by
  cases result with
  | ok b =>
    rw [Gives.chain h, hok] at hfailed
    cases hfailed
  | error kind =>
    obtain ⟨f, -, hfails⟩ := h
    exact hfails.of_returned hout

/-- The call passes where the condition holds, and only there; elsewhere it fails, with the kind. -/
structure Decides (e : Effect (Chain × σ) Reply) (c : Chain) (kind : FailureKind) (p : Prop) :
    Prop where
  passes : e.Gives c .nothing ↔ p
  fails : ¬ p → ∃ f, f.kind = kind ∧ e.Fails c f .nothing

end Effect

/-! ### Bodies, read or not -/

namespace BodyState

/-- The message with which reading the body breaks off, if it is still to be read. -/
def fault? : BodyState → Option String
  | .unread stream => bodyFault? stream
  | .kept _ => none

/-- The bytes that a call goes on with. -/
def bytes : BodyState → List UInt8
  | .unread stream => bodyBytes stream
  | .kept bytes => bytes

theorem visit_found_of_fault {α : Type} {b : BodyState} {message : String}
    (h : b.fault? = some message) (goOn : List UInt8 → Except Failure α) :
    (b.visit goOn).found = .error (readFailure message) := by
  match b with
  | .kept _ | .unread none => cases h
  | .unread (some cs) => simp [visit, contents_of_fault h]

theorem visit_found_of_no_fault {α : Type} {b : BodyState} (h : b.fault? = none)
    (goOn : List UInt8 → Except Failure α) : (b.visit goOn).found = goOn b.bytes := by
  match b with
  | .kept _ | .unread none => rfl
  | .unread (some cs) => simp [visit, contents_of_no_fault h, bytes]

/-- A body that does not break off is kept with its bytes, if anything is done with it. -/
theorem visit_kept {α : Type} {b : BodyState} (h : b.fault? = none)
    (goOn : List UInt8 → Except Failure α) :
    (b.visit goOn).body = .kept b.bytes ∧ (b.visit goOn).abandoned = .kept b.bytes := by
  match b with
  | .kept _ | .unread none => exact ⟨rfl, rfl⟩
  | .unread (some cs) => simp [visit, contents_of_no_fault h, bytes]

end BodyState

namespace Response

/-- The response with the bytes as its body, still to be read. -/
def holding (r : Response) (bytes : List UInt8) : Response :=
  { r with body := .unread (some [.data bytes]) }

theorem holding_whole (r : Response) (bytes : List UInt8) :
    (r.holding bytes).body.fault? = none ∧ (r.holding bytes).body.bytes = bytes :=
  body_single bytes

end Response

/-! ### Calls by what they find -/

namespace Response

variable {r : Response} {c : Chain} {k : ResponseCall}

theorem call_gives {a : Reply} (hok : c.failed = false) (h : (r.visit k).found = .ok a) :
    (r.call c k).Gives c a := by
  obtain ⟨hchain, hevents, hout⟩ := Visit.settle_ok h hok (r.remains k)
  rw [r.call_of_ok k hok]
  exact ⟨hchain, fun q => by rw [hevents, r.visit_told], hout⟩

theorem call_fails {f : Failure} (hok : c.failed = false) (h : (r.visit k).found = .error f) :
    (r.call c k).Fails c f (r.remains k) := by
  obtain ⟨hchain, hevents, hout⟩ := Visit.settle_error h hok (r.remains k)
  have hafter : c.after (.fail f) = { c with failed := true, kind := some f.kind } := by
    simp [Chain.after, hok]
  rw [r.call_of_ok k hok]
  exact ⟨hchain.trans hafter, ⟨_, hevents, fun q => r.visit_told q k⟩, hout⟩

/-- A call that hands out something made of what it found. -/
theorem call_ends {α : Type} {v : Visit α} {g : α → Reply} {result : Except FailureKind α}
    (hok : c.failed = false) (hk : r.visit k = v.map g)
    (h : v.found.mapError Failure.kind = result) :
    (r.call c k).Ends c (r.remains k) (result.map g) := by
  have hfound : (r.visit k).found = v.found.map g := by rw [hk, Visit.map]
  cases hv : v.found with
  | ok a =>
    rw [hv] at h hfound
    subst h
    exact call_gives hok hfound
  | error f =>
    rw [hv] at h hfound
    subst h
    exact ⟨f, rfl, call_fails hok hfound⟩

/-- A call that hands out nothing is decided by what its check finds. -/
theorem call_decides {v : Verdict} {kind : FailureKind} {p : Prop} (hok : c.failed = false)
    (hk : (r.visit k).found = v.found .nothing) (hremains : r.remains k = .nothing)
    (hp : v = none ↔ p) (hkind : ∀ f, v = some f → f.kind = kind) :
    (r.call c k).Decides c kind p := by
  cases v with
  | none =>
    have h : p := hp.mp rfl
    exact ⟨⟨fun _ => h, fun _ => call_gives hok hk⟩, fun hnot => absurd h hnot⟩
  | some f =>
    have hnot : ¬ p := fun h => by cases hp.mpr h
    have hfails : (r.call c k).Fails c f .nothing := hremains ▸ call_fails hok hk
    exact ⟨⟨fun hgives => absurd hfails (hgives.not_fails hok), fun h => absurd h hnot⟩,
      fun _ => ⟨f, hkind f rfl, hfails⟩⟩

/-- A call that has no need of the body leaves the response as it is. -/
theorem call_untouched {α : Type} {found : Except Failure α} {g : α → Reply}
    (hok : c.failed = false) (hk : r.visit k = (r.body.untouched found).map g) :
    (r.call c k).state.2 = r := by
  have hbody : ((r.visit k).settle c (r.remains k)).state.2 = r.body := by
    rcases (r.visit k).settle_body c (r.remains k) with hleft | hleft <;> rw [hleft, hk] <;> rfl
  rw [r.call_of_ok k hok]
  exact congrArg (fun b => { r with body := b }) hbody

/-- A call leaves the body as it is, or keeps its bytes where it does not break off. -/
theorem call_kept (r : Response) (c : Chain) (k : ResponseCall) (hwhole : r.body.fault? = none) :
    (r.call c k).state.2.body = r.body ∨ (r.call c k).state.2.body = .kept r.body.bytes := by
  rcases r.call_body c k with hsame | ⟨hok, -, goOn, hk⟩
  · exact .inl hsame
  · obtain ⟨hbody, habandoned⟩ := BodyState.visit_kept hwhole goOn
    refine .inr ?_
    rw [r.call_of_ok k hok]
    rcases (r.visit k).settle_body c (r.remains k) with hleft | hleft <;> rw [hleft, hk]
    · exact hbody
    · exact habandoned

end Response

end Attest
