import Mathlib.Data.List.Induction
import Attest.Proofs.Reporter.Echo
import Attest.Proofs.Response.ReadOnce
import Attest.Proofs.Session.Deed

/-!
Reporters make no difference.

The same steps are taken twice, on a response whose reporter keeps what it is told and on one whose
reporter panics, and every panic is caught. A panic only keeps the caller from what the call would
have handed out. So as long as the steps call what both runs have, chains and bodies stay the same,
and the panics are the messages (`Session.reporter_transparent`).
-/

namespace Attest

/-- The action calls the object or takes its chain, and does not just look. -/
inductive Action.Proper : Action → Prop
  | takeChain : Proper .takeChain
  | call {a : Action} {k : ItemCall} (hk : Session.itemCall a = .ok k) : Proper a

/-- Whether the action asserts something about the chain itself. -/
def Action.isDemand (a : Action) : Prop := ∃ k, Session.itemCall a = .ok k ∧ k.isDemand = true

/-- Whether the step asserts something about a chain itself. -/
def Step.isDemand : Step → Prop
  | .make _ _ => False
  | .call _ a _ => a.isDemand

/-! ### Deeds -/

namespace Deed

/-- The deed hands out what comes of it. -/
def Fair (d : Deed) : Prop := ∀ x, d.handed = some x ↔ d.yield = .item x

/-- What an action does where reports are kept, and where they panic. -/
structure Matches (a : Action) (d d' : Deed) : Prop where
  reporter : d.chain.reporter = .recording
  chain : d'.chain = d.chain.panicking
  item : d.item.Alike d'.item
  fair : d.Fair
  echo : (Reporter.recording.received d.events = [] ∧ d'.yield = d.yield ∧ d'.handed = d.handed ∧
      ((∃ m, d.yield = .panicked m) → a.isDemand)) ∨
    (¬ a.isDemand ∧ ∃ m, Reporter.recording.received d.events = [m] ∧ d'.yield = .panicked m ∧
      d'.handed = none)

theorem ofEffect_fair (e : Effect (Chain × Item) Reply) : (ofEffect e).Fair := by
  obtain ⟨state, events, outcome⟩ := e
  intro x
  match outcome with
  | .returned .nothing | .returned (.texts _) | .panicked _ =>
    simp [ofEffect, handedBy, Yield.ofOutcome]
  | .returned (.subject s) => simp [ofEffect, handedBy, Yield.ofOutcome]

end Deed

/-- An assertion about a chain ends the same under every reporter. -/
theorem Chain.assertion_outcome (c d : Chain) (panic? : Option String) :
    (c.assertion panic?).outcome = (d.assertion panic?).outcome := by
  cases panic? <;> rfl

/-- Only chains have assertions about themselves; these report nothing, so they end alike. -/
theorem Item.Alike.call_demand {c : Chain} {x y : Item} (h : x.Alike y) {k : ItemCall}
    (hk : k.isDemand = true) {e : Effect (Chain × Item) Reply} (hx : x.call c k = some e) :
    ∃ e', y.call c.panicking k = some e' ∧ e'.state.1 = e.state.1.panicking ∧
      e.state.1 = c ∧ e.state.2.Alike e'.state.2 ∧ e.events = [] ∧ e'.outcome = e.outcome := by
  match k with
  | .chain .requireOk | .chain .requireFailed =>
    cases h with
    | chain =>
      obtain rfl := Option.some.inj hx
      refine ⟨_, rfl, ?_, Chain.assertion_state .., .chain, Chain.assertion_events .., ?_⟩
      · exact (Chain.assertion_state ..).trans (congrArg _ (Chain.assertion_state ..).symm)
      · exact congrArg (Outcome.map _) (Chain.assertion_outcome c.panicking c _)
    | subject | response => simp [call] at hx
  | .chain (.fail _) | .chain .reset | .response _ | .subject _ => simp [ItemCall.isDemand] at hk

theorem Item.Alike.deed {c : Chain} {x y : Item} {a : Action} (h : x.Alike y)
    (hr : c.reporter = .recording) (ha : a.Proper) :
    (x.deed c a).Matches a (y.deed c.panicking a) := by
  cases ha with
  | takeChain =>
    exact ⟨hr, rfl, h, by simp [Deed.Fair, Item.deed], .inl ⟨rfl, rfl, rfl, by simp [Item.deed]⟩⟩
  | @call _ k hk =>
    have hdemand : a.isDemand ↔ k.isDemand = true := by
      simp [Action.isDemand, hk]
    cases hx : x.call c k with
    | none =>
      rw [deed_of_no_call hk hx, deed_of_no_call hk (h.call_none hx _)]
      exact ⟨hr, rfl, h, by simp [Deed.Fair], .inl ⟨rfl, rfl, rfl, by simp⟩⟩
    | some e =>
      rw [deed_of_call hk hx]
      cases hd : k.isDemand with
      | true =>
        obtain ⟨e', hy, hchain, hstate, hitem, hevents, hout⟩ := h.call_demand hd hx
        rw [deed_of_call hk hy]
        refine ⟨?_, hchain, hitem, Deed.ofEffect_fair e, .inl ⟨?_, ?_, ?_, ?_⟩⟩
        · simp [Deed.ofEffect, hstate, hr]
        · simp [Deed.ofEffect, hevents]
        · simp only [Deed.ofEffect, hout]
        · simp only [Deed.ofEffect, hout]
        · exact fun _ => hdemand.mpr hd
      | false =>
        obtain ⟨e', hy, hchain, hitem, hechoes⟩ := h.call_echoes hr hd hx
        rw [deed_of_call hk hy]
        have hproper : ¬ a.isDemand := by simp [hdemand, hd]
        refine ⟨?_, hchain, hitem, Deed.ofEffect_fair e, ?_⟩
        · have hstate := call_state hx
          simp [Deed.ofEffect, hstate, hr]
        · simp only [Deed.ofEffect]
          generalize Reporter.recording.received e.events = reports at hechoes
          generalize e.outcome = o at hechoes
          generalize e'.outcome = o' at hechoes
          cases hechoes with
          | silent reply =>
            refine .inl ⟨rfl, rfl, rfl, ?_⟩
            cases reply <;> simp [Yield.ofOutcome]
          | aloud reply message => exact .inr ⟨hproper, message, rfl, rfl, rfl⟩

/-! ### Who gave a name -/

/-- Whether the step only looks at an object. -/
def Step.isLook : Step → Bool
  | .call _ .look _ => true
  | _ => false

/-- Whether a step named what it made or handed out. -/
def Step.gives (t : Step) (a : Answer) : Bool :=
  match a.ending with
  | .object _ => !t.isLook
  | _ => false

namespace Session

/-- The place among the steps of the last one that gave the name. -/
def giver (s : Session) : List Step → (name : String) → Option Nat
  | [], _ => none
  | t :: rest, n =>
    match (s.step t).1.giver rest n with
    | some i => some (i + 1)
    | none => if t.name = n ∧ t.gives (s.step t).2 then some 0 else none

theorem giver_concat (s : Session) (steps : List Step) (t : Step) (n : String) :
    s.giver (steps ++ [t]) n =
      if t.name = n ∧ t.gives ((s.run steps).1.step t).2 then some steps.length
      else s.giver steps n := by
  induction steps generalizing s with
  | nil => rfl
  | cons u rest ih =>
    have hrun : (s.run (u :: rest)).1 = ((s.step u).1.run rest).1 := rfl
    rw [hrun]
    simp only [List.cons_append, giver, ih]
    by_cases h : t.name = n ∧ t.gives (((s.step u).1.run rest).1.step t).2
    · simp only [if_pos h, List.length_cons]
    · simp only [if_neg h]

theorem giver_lt {s : Session} {steps : List Step} {n : String} {i : Nat}
    (h : s.giver steps n = some i) : i < steps.length := by
  induction steps using List.reverseRecOn with
  | nil => simp [giver] at h
  | append_singleton steps t ih =>
    rw [giver_concat] at h
    split at h
    · simp_all
    · simpa using Nat.lt_succ_of_lt (ih h)

/-- A step on an item names what the deed handed out. -/
theorem Keeping.gives {s : Session} {on as : String} {id : Nat} {d : Deed}
    {out : Session × Answer} {a : Action} (h : s.Keeping on as id d out) (hd : d.Fair)
    (ha : a.Proper) : (Step.call on a as).gives out.2 = d.handed.isSome := by
  have hlook : (Step.call on a as).isLook = false := by
    cases a with
    | look =>
      cases ha with
      | call hk => simp [itemCall] at hk
    | _ => rfl
  have hgives : (Step.call on a as).gives out.2 = true ↔ ∃ x, d.yield = .item x := by
    rw [h.answer]
    simp only [Step.gives, Deed.answer, hlook]
    cases d.yield <;> simp [Yield.ending]
  rw [Bool.eq_iff_iff, hgives, Option.isSome_iff_exists]
  exact exists_congr fun x => (hd x).symm

end Session

/-! ### Bodies that break off under a panic -/

namespace Response

variable {r : Response} {k : ResponseCall} {c : Chain}

/-- A call that fails for want of a body has seen the stream break off. -/
theorem visit_of_break {f : Failure} (hf : (r.visit k).found = .error f)
    (hkind : f.kind = .bodyReadFailure) :
    ∃ message, r.body.hasStream = true ∧
      r.visit k = ⟨.error (BodyState.readFailure message), .kept [], .unread none, []⟩ := by
  rcases r.visit_cases k with ⟨found, hk, hother⟩ | ⟨-, goOn, hk, hother⟩
  · exact absurd hkind (hother f (by rw [hk] at hf; exact hf))
  · rw [hk] at hf ⊢
    match hb : r.body with
    | .kept bytes => rw [hb] at hf; exact absurd hkind (hother bytes f hf)
    | .unread none => rw [hb] at hf; exact absurd hkind (hother [] f hf)
    | .unread (some stream) =>
      rw [hb] at hf
      simp only [BodyState.visit] at hf ⊢
      cases hc : contents stream with
      | ok bytes => rw [hc] at hf; exact absurd hkind (hother bytes f hf)
      | error message => exact ⟨message, rfl, rfl⟩

/-- Under a reporter that panics, such a call is stopped: the stream is gone and no bytes are
kept. -/
theorem call_of_break (hr : c.reporter = .panic) (hok : c.failed = false)
    (hkind : (r.call c k).state.1.kind = some .bodyReadFailure)
    (hf : (r.call c k).state.1.failed = true) :
    ∃ message, r.body.hasStream = true ∧
      (r.call c k).outcome = .panicked (BodyState.readFailure message).text ∧
      (r.call c k).state.2 = { r with body := .unread none } := by
  rw [call_state] at hkind hf
  obtain ⟨f, hrequest, hk⟩ := Chain.kind_of_fails hok hf
  have hbreak : f.kind = .bodyReadFailure := Option.some.inj (hk.symm.trans hkind)
  obtain ⟨message, hstream, hvisit⟩ := visit_of_break (Request.ofFound_eq_fail hrequest) hbreak
  obtain ⟨-, -, hout⟩ := Visit.settle_error (v := r.visit k) (by rw [hvisit]) hok (r.remains k)
  rw [hr] at hout
  refine ⟨message, hstream, ?_, ?_⟩
  · rw [r.call_of_ok k hok]
    exact hout
  · rw [r.call_of_ok k hok]
    simp only [Visit.settle, hvisit] at hout ⊢
    rw [hout]
    rfl

end Response

/-! ### Runs side by side -/

/-- A new response, whose reporter is yet to be chosen. -/
structure Delivery where
  status : Int
  fields : List (List UInt8 × List UInt8)
  body : Option (List Chunk)
  preview : Option Nat
  name : String

/-- The step that makes the response under a reporter. -/
def Delivery.step (d : Delivery) (r : Reporter) : Step :=
  .make (.response (.reporter r) d.status d.fields d.body d.preview) d.name

namespace Session

variable {s R P : Session} {d : Delivery} {pre steps : List Step} {t : Step} {id : Nat}
  {on as n : String} {a : Action}

/-- The session in which the response was made under the reporter, after some steps. -/
def under (s : Session) (d : Delivery) (r : Reporter) (steps : List Step) : Session :=
  (s.run (d.step r :: steps)).1

/-- The name stands for an object of both runs: the same step gave it. -/
def Shares (s : Session) (d : Delivery) (steps : List Step) (n : String) : Prop :=
  ∃ i, s.giver (d.step .recording :: steps) n = some i ∧
    s.giver (d.step .panic :: steps) n = some i

/-- The step calls an object of both runs. -/
def Suits (s : Session) (d : Delivery) (pre : List Step) (t : Step) : Prop :=
  ∃ on a as, t = .call on a as ∧ a.Proper ∧ s.Shares d pre on

/-- The name stands for the same item in both sessions, but for its body, and the chains are the
same, but for the reporter. -/
def Kindred (R P : Session) (id : Nat) (n : String) : Prop :=
  ∃ c x y, c.reporter = .recording ∧ R.chains[id]? = some c ∧
    P.chains[id]? = some c.panicking ∧ R.object? n = some (.item id x) ∧
    P.object? n = some (.item id y) ∧ x.Alike y

theorem Kindred.hasBody_eq (h : R.Kindred P id n) : R.hasBody n = P.hasBody n := by
  obtain ⟨_, _, _, -, -, -, hR, hP, halike⟩ := h
  simp only [hasBody, hR, hP]
  cases halike with
  | chain | subject => rfl
  | response r h => exact h.hasStream_eq

/-- A step on such an item does the same in both sessions. -/
theorem Kindred.keeps (h : R.Kindred P id on) (ha : a.Proper) (as : String) :
    ∃ d d' : Deed, d.Matches a d' ∧ id < R.chains.length ∧ id < P.chains.length ∧
      R.Keeping on as id d (R.step (.call on a as)) ∧
      P.Keeping on as id d' (P.step (.call on a as)) := by
  obtain ⟨c, x, y, hr, hcR, hcP, hR, hP, halike⟩ := h
  exact ⟨x.deed c a, y.deed c.panicking a, halike.deed hr ha,
    (List.getElem?_eq_some_iff.mp hcR).1, (List.getElem?_eq_some_iff.mp hcP).1,
    step_keeps hR hcR a as, step_keeps hP hcP a as⟩

/-- What the step gave in both sessions is the same, and what it did not give in either is as
before. -/
theorem Kindred.step (h : R.Kindred P id on) (ha : a.Proper)
    (hn : (as = n ∧ (Step.call on a as).gives (R.step (.call on a as)).2 ∧
        (Step.call on a as).gives (P.step (.call on a as)).2) ∨
      (¬ (as = n ∧ (Step.call on a as).gives (R.step (.call on a as)).2) ∧
        ¬ (as = n ∧ (Step.call on a as).gives (P.step (.call on a as)).2) ∧
        R.Kindred P id n)) :
    (R.step (.call on a as)).1.Kindred (P.step (.call on a as)).1 id n := by
  obtain ⟨d, d', hd, hltR, hltP, hR, hP⟩ := h.keeps ha as
  have hfair : d'.Fair := by
    rcases hd.echo with ⟨-, hyield, hhanded, -⟩ | ⟨-, m, -, hyield, hhanded⟩
    · simpa only [Deed.Fair, hyield, hhanded] using hd.fair
    · simp [Deed.Fair, hyield, hhanded]
  have hcR : (R.step (.call on a as)).1.chains[id]? = some d.chain := by
    rw [hR.chains, List.getElem?_set_self hltR]
  have hcP : (P.step (.call on a as)).1.chains[id]? = some d.chain.panicking := by
    rw [hP.chains, List.getElem?_set_self hltP, hd.chain]
  rw [hR.gives hd.fair ha, hP.gives hfair ha] at hn
  rcases hn with ⟨rfl, hgave, hgave'⟩ | ⟨hnot, hnot', c, x, y, hr, hc, hc', hx, hy, halike⟩
  · rcases hd.echo with ⟨-, -, hhanded, -⟩ | ⟨-, m, -, -, hhanded⟩
    · obtain ⟨z, hz⟩ := Option.isSome_iff_exists.mp hgave
      refine ⟨d.chain, z, z, hd.reporter, hcR, hcP, ?_, ?_, .refl z⟩
      · rw [hR.object?]
        simp [hz]
      · rw [hP.object?]
        simp [hhanded, hz]
    · simp [hhanded] at hgave'
  · have hR' := hR.object? n
    have hP' := hP.object? n
    rw [if_neg (by simpa only [eq_comm] using hnot)] at hR'
    rw [if_neg (by simpa only [eq_comm] using hnot')] at hP'
    by_cases hon : n = on
    · rw [if_pos hon] at hR' hP'
      exact ⟨d.chain, d.item, d'.item, hd.reporter, hcR, hcP, hR', hP', hd.item⟩
    · rw [if_neg hon] at hR' hP'
      exact ⟨d.chain, x, y, hd.reporter, hcR, hcP, hR'.trans hx, hP'.trans hy, halike⟩

/-- A delivery makes the response with a new chain, or is refused whatever the reporter. -/
theorem step_delivery (s : Session) (d : Delivery) :
    (∃ why, ∀ r, s.step (d.step r) = (s, ⟨.refused why, none, []⟩)) ∨
      ∃ x : Item, ∀ r,
        (s.step (d.step r)).1 =
          (s.addChain { reporter := r }).bind d.name (.item s.chains.length x) := by
  cases hr : received d.status d.fields d.body with
  | error why =>
    refine .inl ⟨why, fun r => ?_⟩
    simp only [Session.step, Delivery.step, makeAs, make, hr, refuse]
  | ok resp =>
    refine .inr ⟨.response { resp with previewLimit := d.preview.getD resp.previewLimit },
      fun r => ?_⟩
    simp only [Session.step, Delivery.step, makeAs, make, hr, makeResponse, withFreshChain, made]

/-- The response itself is what both runs have at first. -/
theorem kindred_delivery (hn : s.Shares d [] n) :
    (s.under d .recording []).Kindred (s.under d .panic []) s.chains.length n := by
  obtain ⟨i, hR, -⟩ := hn
  have hgave : d.name = n ∧ (d.step .recording).gives (s.step (d.step .recording)).2 := by
    have hgiver := giver_concat s [] (d.step .recording) n
    rw [List.nil_append, hR] at hgiver
    by_contra hnot
    exact absurd (hgiver.trans (if_neg hnot)) (by simp [giver])
  obtain ⟨rfl, hgave⟩ := hgave
  rcases s.step_delivery d with ⟨why, hstep⟩ | ⟨x, hstep⟩
  · rw [hstep] at hgave
    simp [Step.gives] at hgave
  · refine ⟨{ reporter := .recording }, x, x, rfl, ?_, ?_, ?_, ?_, .refl x⟩
    all_goals simp only [under, run, hstep]
    · simp [addChain]
    · simp [addChain, Chain.panicking]
    · exact object?_bind_self ..
    · exact object?_bind_self ..

theorem under_concat (s : Session) (d : Delivery) (r : Reporter) (pre : List Step) (t : Step) :
    s.under d r (pre ++ [t]) = ((s.under d r pre).step t).1 :=
  run_append s (d.step r :: pre) [t]

theorem kindred_step (h : ∀ m, s.Shares d pre m →
      (s.under d .recording pre).Kindred (s.under d .panic pre) id m)
    (ht : s.Suits d pre t) (hn : s.Shares d (pre ++ [t]) n) :
    (s.under d .recording (pre ++ [t])).Kindred (s.under d .panic (pre ++ [t])) id n := by
  obtain ⟨on, a, as, rfl, ha, hon⟩ := ht
  obtain ⟨i, hR, hP⟩ := hn
  rw [← List.cons_append, giver_concat] at hR hP
  rw [under_concat, under_concat]
  refine (h on hon).step ha ?_
  split at hR <;> split at hP
  next hgR hgP => exact .inl ⟨hgR.1, hgR.2, hgP.2⟩
  next =>
    have hlt := giver_lt hP
    have hi := Option.some.inj hR
    simp only [List.length_cons] at hlt hi
    omega
  next =>
    have hlt := giver_lt hR
    have hi := Option.some.inj hP
    simp only [List.length_cons] at hlt hi
    omega
  next hgR hgP => exact .inr ⟨hgR, hgP, h n ⟨i, hR, hP⟩⟩

/-- In runs whose steps call what both have, what both have is the same. -/
theorem run_kindred (h : ∀ pre t post, steps = pre ++ t :: post → s.Suits d pre t)
    (hn : s.Shares d steps n) :
    (s.under d .recording steps).Kindred (s.under d .panic steps) s.chains.length n := by
  induction steps using List.reverseRecOn generalizing n with
  | nil => exact kindred_delivery hn
  | append_singleton pre t ih =>
    have hpre : ∀ pre' t' post, pre = pre' ++ t' :: post → s.Suits d pre' t' :=
      fun pre' t' post he => h pre' t' (post ++ [t]) (by simp [he])
    exact kindred_step (fun m hm => ih hpre hm) (h pre t [] rfl) hn

/-! ### Steps under both reporters -/

/-- A step of two runs, where reports are kept and where they panic. -/
structure Echoed (R P : Session) (t : Step) : Prop where
  chain : ∃ c, (R.step t).2.chain = some c ∧ (P.step t).2.chain = some c.panicking
  /-- What the recording gets is the panic. -/
  panics : ¬ t.isDemand → ∀ m, (P.step t).2.ending = .panicked m ↔
    (R.step t).1.recording = R.recording ++ [m]
  /-- Without a panic, or where a chain is asserted to be OK or failed, both end the same and
  nothing is reported. -/
  returns : (∀ m, (P.step t).2.ending ≠ .panicked m) ∨ t.isDemand →
    (P.step t).2.ending = (R.step t).2.ending ∧ (R.step t).1.recording = R.recording
  /-- A body that breaks off as it is read leaves nothing kept and no stream. -/
  breaks : ∀ on id c r k c', P.called? t = some ⟨on, id, c, .response r, .response k⟩ →
    c.failed = false → (P.step t).2.chain = some c' → c'.failed = true →
    c'.kind = some .bodyReadFailure → ∃ message, r.body.hasStream = true ∧
      (P.step t).2.ending = .panicked (BodyState.readFailure message).text ∧
      (P.step t).1.object? on = some (.item id (.response { r with body := .unread none }))

/-- A panicking step that fails for want of a body. -/
theorem step_of_break {c c' : Chain} {r : Response} {k : ResponseCall}
    (hq : P.called? t = some ⟨on, id, c, .response r, .response k⟩) (hr : c.reporter = .panic)
    (hok : c.failed = false) (hc' : (P.step t).2.chain = some c') (hf : c'.failed = true)
    (hkind : c'.kind = some .bodyReadFailure) :
    ∃ message, r.body.hasStream = true ∧
      (P.step t).2.ending = .panicked (BodyState.readFailure message).text ∧
      (P.step t).1.object? on = some (.item id (.response { r with body := .unread none })) := by
  obtain ⟨a, ht, hk, ho, hc⟩ := called?_eq_some hq
  have hstep := step_of_call hq rfl
  rw [hstep, conclude_chain] at hc'
  obtain rfl := Option.some.inj hc'
  obtain ⟨message, hstream, hout, hleft⟩ := Response.call_of_break hr hok hkind hf
  refine ⟨message, hstream, ?_, ?_⟩
  · rw [hstep]
    exact conclude_ending_panicked hout
  · have hkeeps := step_keeps ho hc a t.name
    have hdeed := Item.deed_of_call (x := .response r) (c := c) hk rfl
    rw [ht, hkeeps.object?, hdeed]
    simp [Deed.ofEffect, Deed.handedBy, hout, hleft]

theorem Kindred.echoed (h : R.Kindred P id on) (ha : a.Proper) (as : String) :
    R.Echoed P (.call on a as) := by
  obtain ⟨d, d', hd, -, -, hR, hP⟩ := h.keeps ha as
  have hending : (R.step (.call on a as)).2.ending = d.yield.ending id := by rw [hR.answer]; rfl
  have hending' : (P.step (.call on a as)).2.ending = d'.yield.ending id := by rw [hP.answer]; rfl
  have hrecording : (R.step (.call on a as)).1.recording =
      R.recording ++ Reporter.recording.received d.events := by
    rw [hR.recording, Reporter.received_recording]
  refine ⟨?_, ?_, ?_, ?_⟩
  · exact ⟨d.chain, by rw [hR.answer]; rfl, by rw [hP.answer, ← hd.chain]; rfl⟩
  · intro hcalm m
    rw [hending', hrecording]
    rcases hd.echo with ⟨hquiet, hyield, -, honly⟩ | ⟨-, m', hloud, hyield, -⟩
    · rw [hquiet, hyield]
      refine ⟨fun hp => absurd (honly ⟨m, ?_⟩) hcalm, fun hm => by simp at hm⟩
      cases hy : d.yield <;> simp_all [Yield.ending]
    · rw [hloud, hyield]
      simp [Yield.ending, eq_comm]
  · intro hcalm
    rw [hending, hending', hrecording]
    rcases hd.echo with ⟨hquiet, hyield, -, -⟩ | ⟨hnot, m, -, hyield, -⟩
    · rw [hquiet, hyield]
      simp
    · rcases hcalm with hcalm | hcalm
      · exact absurd (by rw [hending', hyield]; rfl) (hcalm m)
      · exact absurd hcalm hnot
  · intro on' id' c r k c' hq hok hc' hf hkind
    obtain ⟨a', ht, -, ho, hc⟩ := called?_eq_some hq
    obtain ⟨c₀, x, y, -, -, hcP, -, hPo, -⟩ := h
    obtain rfl : on = on' := by simpa using (Step.call.inj ht).1
    obtain ⟨rfl, -⟩ : id = id' ∧ y = .response r := by simpa using hPo.symm.trans ho
    obtain rfl := Option.some.inj (hcP.symm.trans hc)
    exact step_of_break hq rfl hok hc' hf hkind

/-- CORRECT: where reports are kept and where they panic, the same steps on the objects that both
runs have leave the same chains and the same bodies to be read, hand out the same unless they panic,
and panic just when something is reported, with the report. A panic in the middle of the first
reading leaves the stream consumed and nothing kept, and nothing shows of that later. -/
theorem reporter_transparent (s : Session) (d : Delivery) (steps : List Step)
    (h : ∀ pre t post, steps = pre ++ t :: post → s.Suits d pre t) :
    (∀ pre t post, steps = pre ++ t :: post →
      (s.under d .recording pre).Echoed (s.under d .panic pre) t) ∧
    ∀ pre post n, steps = pre ++ post → s.Shares d pre n →
      (s.under d .recording pre).Kindred (s.under d .panic pre) s.chains.length n ∧
      (s.under d .recording pre).hasBody n = (s.under d .panic pre).hasBody n := by
  have hpre {pre post : List Step} (he : steps = pre ++ post) {n : String}
      (hn : s.Shares d pre n) :
      (s.under d .recording pre).Kindred (s.under d .panic pre) s.chains.length n :=
    run_kindred (fun pre' t post' he' => h pre' t (post' ++ post) (by simp [he, he'])) hn
  refine ⟨?_, fun pre post n he hn => ⟨hpre he hn, (hpre he hn).hasBody_eq⟩⟩
  intro pre t post he
  obtain ⟨on, a, as, rfl, ha, hon⟩ := h pre t post he
  exact (hpre he hon).echoed ha as

/-- A response whose stream gives a letter and breaks off. -/
def torn : Delivery := ⟨200, [], some [.data [0x61], .broken "gone"], none, "r"⟩

/-- The body is asked for, and after a reset it is asked for again. -/
def slips : List Step :=
  [.call "r" .takeChain "chain",
    .call "r" (.item (.response .body)) "b",
    .call "r" (.item (.response .noContent)) "_",
    .call "chain" (.item (.chain .reset)) "_",
    .call "r" (.item (.response .body)) "b",
    .call "b" (.item (.subject (.checkBody .empty))) "_"]

/-- The first call panics in the middle of its reading, and the second one gives the same in both
runs. -/
theorem reporter_transparent_in_slips :
    let s := start (.empty "/")
    (∀ pre t post, slips = pre ++ t :: post → s.Suits torn pre t) ∧
      (s.under torn .recording (slips.take 1)).Echoed (s.under torn .panic (slips.take 1))
        (.call "r" (.item (.response .body)) "b") ∧
      ((s.under torn .panic (slips.take 1)).step
          (.call "r" (.item (.response .body)) "b")).2.ending =
        .panicked (BodyState.readFailure "gone").text ∧
      s.Shares torn slips "b" ∧
      (s.under torn .recording slips).Kindred (s.under torn .panic slips) 1 "b" := by
  intro s
  have hsuits : ∀ pre t post, slips = pre ++ t :: post → s.Suits torn pre t := by
    intro pre t post h
    rcases pre with _ | ⟨t₀, _ | ⟨t₁, _ | ⟨t₂, _ | ⟨t₃, _ | ⟨t₄, _ | ⟨t₅, pre⟩⟩⟩⟩⟩⟩ <;>
      simp only [slips, List.cons_append, List.nil_append, List.cons.injEq] at h
    · obtain ⟨rfl, -⟩ := h
      exact ⟨_, _, _, rfl, .takeChain, 0, rfl, rfl⟩
    · obtain ⟨rfl, rfl, -⟩ := h
      exact ⟨_, _, _, rfl, .call rfl, 0, rfl, rfl⟩
    · obtain ⟨rfl, rfl, rfl, -⟩ := h
      exact ⟨_, _, _, rfl, .call rfl, 0, rfl, rfl⟩
    · obtain ⟨rfl, rfl, rfl, rfl, -⟩ := h
      exact ⟨_, _, _, rfl, .call rfl, 1, rfl, rfl⟩
    · obtain ⟨rfl, rfl, rfl, rfl, rfl, -⟩ := h
      exact ⟨_, _, _, rfl, .call rfl, 0, rfl, rfl⟩
    · obtain ⟨rfl, rfl, rfl, rfl, rfl, rfl, -⟩ := h
      exact ⟨_, _, _, rfl, .call rfl, 5, by decide +kernel, by decide +kernel⟩
    · simp at h
  obtain ⟨hsteps, hnames⟩ := reporter_transparent s torn slips hsuits
  have hb : s.Shares torn slips "b" := ⟨5, by decide +kernel, by decide +kernel⟩
  have hfirst := hsteps (slips.take 1) (.call "r" (.item (.response .body)) "b") (slips.drop 2) rfl
  exact ⟨hsuits, hfirst, rfl, hb, (hnames slips [] "b" (by simp) hb).1⟩

end Session

end Attest
