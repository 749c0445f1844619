import Attest.Proofs.Chain.Frozen
import Attest.Proofs.Chain.History
import Attest.Proofs.Response.Decoded
import Attest.Proofs.Response.NoContent
import Attest.Proofs.Response.Respelled

/-!
The failures that a chain is given.

A chain that is given a failure shows it: an OK chain is failed by it, and a failed one drops it
with a warning. So the failures given on the way can be counted (`Chain.given`), and the count is
that of the failures (`Chain.failAll_given`). The assertions and
accessors of all items give their chain one failure at most, and none while it is failed; the kind
of the failure tells which call it can have come from (`Session.no_failure_dropped`).
-/

namespace Attest

/-! ### Counting -/

def Event.isWarning : Event → Bool
  | .logged .warn _ => true
  | _ => false

/-- The number of warnings among the events. -/
def warnings (events : List Event) : Nat := events.countP Event.isWarning

@[simp] theorem warnings_nil : warnings [] = 0 := rfl

@[simp] theorem warnings_append (es fs : List Event) :
    warnings (es ++ fs) = warnings es + warnings fs := List.countP_append

/-- No reporter warns. -/
theorem Reporter.warnings_events (r : Reporter) (m : String) : warnings (r.events m) = 0 := by
  cases r <;> rfl

namespace Chain

/-- How many failures the chain was given until it was `d`, with these events on the way and no
reset: the one that failed it, and those that it dropped. -/
def given (c d : Chain) (events : List Event) : Nat :=
  (if c.failed = false ∧ d.failed = true then 1 else 0) + warnings events

/-- What is given in two stretches adds up. -/
theorem given_append {c d e : Chain} (hleft : c.failed = true → d.failed = true)
    (hright : d.failed = true → e.failed = true) (es fs : List Event) :
    c.given e (es ++ fs) = c.given d es + d.given e fs := by
  simp only [given, warnings_append]
  cases hc : c.failed <;> cases hd : d.failed <;> cases he : e.failed <;> simp_all <;> omega

/-- A failure given to a chain counts, whether it is reported or dropped. -/
theorem fail_given (c : Chain) (f : Failure) : c.given (c.fail f).state (c.fail f).events = 1 := by
  cases hf : c.failed with
  | true => simp [given, fail, hf, warnings, Event.isWarning]
  | false => simp [given, fail, hf, Reporter.warnings_events]

/-- Gives the chain these failures one after the other. -/
def failAll (fs : List Failure) : Act Chain Unit := fs.forM Act.fail

theorem fail_returned {c : Chain} (hr : c.reporter.returns = true) (f : Failure) :
    (c.fail f).outcome = .returned () := by
  unfold fail
  split
  · rfl
  · cases hc : c.reporter with
    | panic => simp [hc, Reporter.returns] at hr
    | recording | log | console | custom => simp [Reporter.outcome]

/-- The count is that of the failures given: several in a row count each, as long as the reports
return. -/
theorem failAll_given : ∀ (fs : List Failure) {c : Chain}, c.reporter.returns = true →
    c.given (failAll fs c).state (failAll fs c).events = fs.length ∧
      (c.failed = true → (failAll fs c).state.failed = true)
  | [], c, _ => by cases hf : c.failed <;> simp [failAll, given, Effect.pure, hf]
  | f :: fs, c, hr => by
    have hcons : failAll (f :: fs) = (Act.fail f >>= fun _ => failAll fs) := List.forM_cons ..
    have hrun := Act.bind_run_of_returned (m := Act.fail f) (c.fail_returned hr f)
      fun _ => failAll fs
    have hreporter : (c.fail f).state.reporter = c.reporter := by rw [fail_state, after_reporter]
    obtain ⟨hgiven, hfailed⟩ := failAll_given fs (hreporter ▸ hr)
    rw [hcons, hrun]
    have hlast := hfailed (c.fail_failed f)
    refine ⟨?_, fun _ => hlast⟩
    calc c.given (failAll fs (c.fail f).state).state
          ((c.fail f).events ++ (failAll fs (c.fail f).state).events)
        = c.given (c.fail f).state (c.fail f).events +
            (c.fail f).state.given (failAll fs (c.fail f).state).state
              (failAll fs (c.fail f).state).events :=
          given_append (fun _ => c.fail_failed f) (fun _ => hlast) _ _
      _ = 1 + fs.length := by rw [c.fail_given f, hgiven]
      _ = (f :: fs).length := Nat.add_comm ..

end Chain

/-! ### Warnings of calls -/

namespace Chain

variable {c : Chain}

/-- What the log has of a failure that is dropped. -/
def droppedRecord (f : Failure) : Event :=
  .logged .warn ("chain already failed, dropping: " ++ f.text)

/-- A call that is settled gives its failure to an OK chain, or none. -/
theorem settle_warnings {α : Type} (c : Chain) (found : Except Failure α) (placeholder : α) :
    warnings (c.settle found placeholder).events = 0 := by
  cases hf : c.failed with
  | true =>
    rw [settle_of_failed hf]
    rfl
  | false =>
    cases found with
    | ok a =>
      rw [settle_ok a _ hf]
      rfl
    | error f => simp [settle_error f _ hf, Effect.map, fail, hf, Reporter.warnings_events]

/-- A direct failure warns on a failed chain, and nothing else that is done with a chain does. -/
theorem call_warnings {k : ChainCall} (h : warnings (c.call k).events ≠ 0) :
    ∃ f, k = .fail f ∧ c.failed = true ∧ (c.call k).events = [droppedRecord f] := by
  cases k with
  | fail f =>
    cases hf : c.failed with
    | true => exact ⟨f, rfl, rfl, by simp [call, fail, hf, droppedRecord]⟩
    | false => exact absurd (by simp [call, fail, hf, Reporter.warnings_events]) h
  | reset => exact absurd rfl h
  | requireOk | requireFailed => exact absurd (congrArg warnings (c.assertion_events _)) h

theorem given_le_one {events : List Event} (hquiet : warnings events = 0) (c d : Chain) :
    c.given d events ≤ 1 := by
  rw [given, hquiet]
  split <;> decide

/-- Without a warning, a chain was given the failure of the request, if it was OK. -/
theorem given_after_eq_one_iff {q : Request} {events : List Event}
    (hquiet : warnings events = 0) :
    c.given (c.after q) events = 1 ↔ c.failed = false ∧ ∃ f, q = .fail f := by
  cases q <;> cases hf : c.failed <;> simp [given, after, hquiet, hf]

end Chain

theorem BodyState.visit_warnings {α : Type} (b : BodyState)
    (goOn : List UInt8 → Except Failure α) : warnings (b.visit goOn).events = 0 := by
  unfold visit
  split
  · rfl
  · rfl
  · split <;> rfl

theorem Response.call_warnings (r : Response) (c : Chain) (k : ResponseCall) :
    warnings (r.call c k).events = 0 := by
  cases hf : c.failed with
  | true =>
    rw [r.call_of_failed k hf]
    rfl
  | false =>
    have hvisit : warnings (r.visit k).events = 0 := by
      rcases r.visit_cases k with ⟨found, hk, -⟩ | ⟨-, goOn, hk, -⟩ <;> rw [hk]
      · rfl
      · exact r.body.visit_warnings goOn
    rw [r.call_of_ok k hf]
    simp [Visit.settle, hvisit, Chain.settle_warnings]

/-- Of all calls on items, only a direct failure on a failed chain warns. -/
theorem Item.call_warnings {c : Chain} {x : Item} {k : ItemCall}
    {e : Effect (Chain × Item) Reply} (h : x.call c k = some e) (hw : warnings e.events ≠ 0) :
    ∃ f, x = .chain ∧ k = .chain (.fail f) ∧ c.failed = true ∧
      e.events = [Chain.droppedRecord f] := by
  rcases call_cases h with ⟨q, rfl, rfl, rfl⟩ | ⟨r, q, rfl, rfl, rfl⟩ | ⟨s, q, j, rfl, rfl, -, rfl⟩
  · obtain ⟨f, rfl, hf, hevents⟩ := Chain.call_warnings hw
    exact ⟨f, rfl, rfl, hf, hevents⟩
  · exact absurd (r.call_warnings c q) hw
  · exact absurd (by rw [j.settle_found]; exact c.settle_warnings _ _) hw

/-! ### The kinds that calls fail with -/

/-- The calls that a failure of the kind can come from. -/
inductive FailureKind.ArisesIn : FailureKind → ItemCall → Prop where
  | value (k : Call) : ArisesIn .valueMismatch (.subject k)
  | status (expected : Status) : ArisesIn .statusMismatch (.response (.status expected))
  | noContent : ArisesIn .contentAbsenceViolation (.response .noContent)
  | contentType {k : ResponseCall} (h : k.asksType = true) :
      ArisesIn .contentTypeMismatch (.response k)
  | charset {k : ResponseCall} (h : k = .text ∨ k = .json) :
      ArisesIn .unsupportedCharset (.response k)
  | decoding {k : ResponseCall} (h : k = .text ∨ k = .json) :
      ArisesIn .decodeFailure (.response k)
  | bodyRead {k : ResponseCall} (h : k.reads = true) : ArisesIn .bodyReadFailure (.response k)

theorem failsOnly_of_mapError {α : Type} {p : FailureKind → Prop} {found : Except Failure α}
    {result : Except FailureKind α} (h : found.mapError Failure.kind = result)
    (hp : ∀ kind, result = .error kind → p kind) : FailsOnly p found := by
  rintro f rfl
  exact hp f.kind h.symm

namespace Response

theorem visitText_kinds (r : Response) :
    FailsOnly (FailureKind.ArisesIn · (.response .text)) r.visitText.found := by
  obtain ⟨result, hresult⟩ := r.exists_textOutcome
  refine failsOnly_of_mapError (visitText_found hresult) fun kind hkind => ?_
  cases hresult <;> cases hkind
  case mediaType => exact .contentType rfl
  case stream => exact .bodyRead rfl
  case charset => exact .charset (.inl rfl)
  case bytes => exact .decoding (.inl rfl)

theorem visitJson_kinds (r : Response) :
    FailsOnly (FailureKind.ArisesIn · (.response .json)) r.visitJson.found := by
  obtain ⟨result, hresult⟩ := r.exists_jsonOutcome
  refine failsOnly_of_mapError (visitJson_found hresult) fun kind hkind => ?_
  cases hresult <;> cases hkind
  case mediaType => exact .contentType rfl
  case charset => exact .charset (.inr rfl)
  case stream => exact .bodyRead rfl
  case bytes => exact .decoding (.inr rfl)

theorem visitNoContent_kinds (r : Response) :
    FailsOnly (FailureKind.ArisesIn · (.response .noContent)) (r.visit .noContent).found := by
  obtain ⟨result, hresult⟩ := r.exists_noContentOutcome
  rw [visit_noContent_found hresult]
  cases hresult with
  | nothing => exact failsOnly_ok _
  | stream => exact failsOnly_error (.bodyRead rfl)
  | header | body | both => exact failsOnly_error .noContent

theorem visitType_kinds (r : Response) (mediaType : String) (charset : Option String)
    {k : ResponseCall} (hk : k.asksType = true) :
    FailsOnly (FailureKind.ArisesIn · (.response k))
      (Verdict.found Reply.nothing (r.contentTypeVerdict mediaType charset)) := by
  cases h : r.contentTypeVerdict mediaType charset with
  | none => exact failsOnly_ok _
  | some f =>
    refine failsOnly_error ?_
    rw [kind_of_contentTypeVerdict h]
    exact .contentType hk

theorem visit_kinds (r : Response) (k : ResponseCall) :
    FailsOnly (FailureKind.ArisesIn · (.response k)) (r.visit k).found := by
  cases k with
  | noContent => exact r.visitNoContent_kinds
  | status expected =>
    simp only [visit, BodyState.untouched]
    exact failsOnly_require (.status expected) _
  | contentType | contentTypeCharset =>
    simp only [visit, BodyState.untouched]
    exact r.visitType_kinds _ _ rfl
  | headers | header =>
    simp only [visit, BodyState.untouched]
    exact failsOnly_ok _
  | body =>
    simp only [visit]
    cases hfault : r.body.fault? with
    | none =>
      rw [BodyState.visit_found_of_no_fault hfault]
      exact failsOnly_ok _
    | some message =>
      rw [BodyState.visit_found_of_fault hfault]
      exact failsOnly_error (.bodyRead rfl)
  | text =>
    simp only [visit, Visit.map]
    exact failsOnly_map r.visitText_kinds _
  | json =>
    simp only [visit, Visit.map]
    exact failsOnly_map r.visitJson_kinds _

end Response

/-- A failure that an assertion or accessor requests is of a kind that arises in it. -/
theorem Item.kind_of_request {x : Item} {k : ItemCall} {f : Failure} (hk : k.asks = true)
    (h : x.request k = .fail f) : f.kind.ArisesIn k := by
  match x, k with
  | .response r, .response q => exact r.visit_kinds q f (Request.ofFound_eq_fail h)
  | .subject s, .subject q =>
    simp only [request] at h
    split at h
    next j hj =>
      rw [Subject.judge_kind hj h]
      exact .value q
    next => cases h
  | .chain, .chain _ => cases hk
  | .chain, .response _ | .chain, .subject _ | .response _, .chain _ | .response _, .subject _
  | .subject _, .chain _ | .subject _, .response _ => cases h

/-! ### Sessions -/

theorem Config.load_warnings (files : Files) (dir : Path) (custom : Option String) :
    warnings (load files dir custom).1 = 0 := by
  unfold load
  split
  · rfl
  · rfl
  · split <;> rfl

/-- The failure that a step gives to a chain directly. -/
def Step.directFailure? : Step → Option Failure
  | .call _ (.item (.chain (.fail f))) _ => some f
  | _ => none

namespace Session

variable {s : Session} {t : Step} {q : Called}

theorem makeSettings_warnings (s : Session) (origin : SettingsOrigin) :
    warnings (s.makeSettings origin).1 = 0 := by
  cases origin with
  | reporter | defaults => rfl
  | directory dir => exact Config.load_warnings s.files (s.directory dir) none
  | config name =>
    simp only [makeSettings]
    split <;> rfl

theorem withChainOf_warnings (s : Session) (name : String) (x : Item) :
    warnings (s.withChainOf name x).1 = 0 := by
  unfold withChainOf
  split <;> rfl

theorem make_warnings (s : Session) (m : Make) : warnings (s.make m).1 = 0 := by
  cases m with
  | chain | reporter | defaultConfig | contentType | failure => rfl
  | subject => exact s.withChainOf_warnings _ _
  | config dir path => exact Config.load_warnings s.files (s.directory dir) path
  | settings origin => exact s.makeSettings_warnings origin
  | headers chain fields =>
    simp only [make]
    split
    · rfl
    · exact s.withChainOf_warnings _ _
  | response origin status fields body preview =>
    simp only [make]
    split
    · rfl
    · cases origin with
      | reporter => rfl
      | chain name => exact s.withChainOf_warnings _ _
      | settings name =>
        simp only [makeResponse]
        split <;> rfl

theorem makeAs_warnings (s : Session) (m : Make) (name : String) :
    warnings (s.makeAs m name).2.events = 0 := by
  have hmake := s.make_warnings m
  unfold makeAs
  split <;> simp_all

theorem actTool_warnings (s : Session) (o : Object) (a : Action) :
    warnings (s.actTool o a).2.events = 0 := by
  unfold actTool
  split <;> first | rfl | exact Reporter.warnings_events _ _ | (split <;> rfl)

/-- On an item, an action that comes to no call reaches nothing outside. -/
theorem actItem_events_of_error {a : Action} {why : Refusal} (h : itemCall a = .error why)
    (s : Session) (on : String) (id : Nat) (x : Item) (as : String) :
    (s.actItem on id x a as).2.events = [] := by
  unfold actItem
  split
  · rfl
  · split
    · rfl
    · rfl
    · split <;> rfl
    · rw [h]
      rfl

/-- Nothing but a call on an item warns. -/
theorem step_warnings_of_not_called (h : s.called? t = none) :
    warnings (s.step t).2.events = 0 := by
  cases t with
  | make m as => exact s.makeAs_warnings m as
  | call on a as =>
    simp only [step, call]
    split
    · rfl
    next id x ho =>
      cases hk : itemCall a with
      | ok k =>
        have hc : s.chains[id]? = none := by simpa [called?, ho, hk] using h
        simp only [actItem, hc]
        rfl
      | error why =>
        rw [actItem_events_of_error hk]
        rfl
    next o _ _ => exact s.actTool_warnings o a

/-- A step that warns gives a failed chain a failure directly. -/
theorem exists_of_step_warnings (h : warnings (s.step t).2.events ≠ 0) :
    ∃ q f, s.called? t = some q ∧ q.call = .chain (.fail f) ∧ q.chain.failed = true ∧
      (s.step t).2.events = [Chain.droppedRecord f] := by
  cases hq : s.called? t with
  | none => exact absurd (step_warnings_of_not_called hq) h
  | some q =>
    cases he : q.item.call q.chain q.call with
    | none =>
      rw [step_of_no_call hq he] at h
      exact absurd rfl h
    | some e =>
      rw [step_of_call hq he, conclude_events] at h ⊢
      obtain ⟨f, -, hk, hf, hevents⟩ := Item.call_warnings he h
      exact ⟨q, f, rfl, hk, hf, hevents⟩

theorem itemCall_eq_chain {a : Action} {k : ChainCall} (h : itemCall a = .ok (.chain k)) :
    a = .item (.chain k) := by
  cases a with
  | item => simpa [itemCall] using h
  | checkStatus | checkFields =>
    simp only [itemCall] at h
    split at h <;> cases h
  | look | ask | takeChain | messages | count | last | clear | report | sameFailure
  | sameContentType => cases h

/-- Without direct failures a run drops nothing. -/
theorem run_warnings : ∀ (steps : List Step) {s : Session},
    (∀ t ∈ steps, t.directFailure? = none) → ∀ answer ∈ (s.run steps).2, warnings answer.events = 0
  | [], _, _, _, hmem => by simp [run] at hmem
  | t :: rest, s, h, answer, hmem => by
    obtain ⟨ht, hrest⟩ := List.forall_mem_cons.mp h
    rcases List.mem_cons.mp hmem with rfl | hmem
    · by_contra hwarns
      obtain ⟨q, f, hq, hk, -, -⟩ := exists_of_step_warnings hwarns
      obtain ⟨a, hstep, ha, -, -⟩ := called?_eq_some hq
      rw [hk] at ha
      rw [hstep, itemCall_eq_chain ha] at ht
      cases ht
    · exact run_warnings rest hrest answer hmem

/-- CORRECT. The count of given failures is right: one that is given counts, reported or dropped,
and several in a row count each, as long as the reports return. In every session, a step that drops
a failure gives it directly to a failed chain, and a run without direct failures drops none. An
assertion or accessor, whatever it is called on and in whatever state, drops nothing either: it
gives its chain one failure at most, only while the chain is OK, and of a kind that arises in that
call. -/
theorem no_failure_dropped (s : Session) :
    (∀ (c : Chain) (f : Failure), c.given (c.fail f).state (c.fail f).events = 1) ∧
    (∀ (fs : List Failure) (c : Chain), c.reporter.returns = true →
      c.given (Chain.failAll fs c).state (Chain.failAll fs c).events = fs.length) ∧
    (∀ t, warnings (s.step t).2.events ≠ 0 →
      ∃ q f, s.called? t = some q ∧ q.call = .chain (.fail f) ∧ q.chain.failed = true ∧
        (s.step t).2.events = [Chain.droppedRecord f]) ∧
    (∀ steps : List Step, (∀ t ∈ steps, t.directFailure? = none) →
      ∀ answer ∈ (s.run steps).2, warnings answer.events = 0) ∧
    (∀ t q, s.called? t = some q → q.call.asks = true →
      warnings (s.step t).2.events = 0 ∧
      ∃ d, (s.step t).1.chains[q.id]? = some d ∧
        q.chain.given d (s.step t).2.events ≤ 1 ∧
        (q.chain.given d (s.step t).2.events = 1 →
          q.chain.failed = false ∧ d.failed = true ∧
            ∃ kind, d.kind = some kind ∧ kind.ArisesIn q.call)) := by
  refine ⟨Chain.fail_given, fun fs _ hr => (Chain.failAll_given fs hr).1,
    fun t => exists_of_step_warnings, fun steps => run_warnings steps, ?_⟩
  intro t q hq hasks
  have hquiet : warnings (s.step t).2.events = 0 := by
    by_contra hwarns
    obtain ⟨q', f, hq', hk, -, -⟩ := exists_of_step_warnings hwarns
    obtain rfl : q = q' := Option.some.inj (hq.symm.trans hq')
    rw [hk] at hasks
    cases hasks
  refine ⟨hquiet, _, step_chain_of_called hq, Chain.given_le_one hquiet _ _, fun hone => ?_⟩
  obtain ⟨hok, f, hf⟩ := (Chain.given_after_eq_one_iff hquiet).mp hone
  have hafter : q.chain.after (.fail f) =
      { q.chain with failed := true, kind := some f.kind } := by simp [Chain.after, hok]
  rw [hf, hafter]
  exact ⟨hok, rfl, f.kind, rfl, Item.kind_of_request hasks hf⟩

/-- A session with a response whose stream breaks off. -/
def cutShort : Session :=
  ((start (.empty "/")).step
    (.make (.response (.chain chainName) 200 [] (some [.broken "reset"]) none) "r")).1

/-- A response gives its chain the failure of its stream, and the direct failure after it is
dropped. Two that are given directly count twice. -/
theorem no_failure_dropped_when_cut_short :
    let ask : Step := .call "r" (.item (.response .noContent)) "_"
    let late : Step := .call chainName (.item (.chain (.fail (.value "late")))) "_"
    let s := (cutShort.step ask).1
    let c : Chain := { reporter := .recording }
    let both := Chain.failAll [.value "early", .value "late"] c
    c.reporter.returns = true ∧ c.given both.state both.events = 2 ∧ ask.directFailure? = none ∧
      (∀ answer ∈ (cutShort.run [ask, ask]).2, warnings answer.events = 0) ∧
      (∃ q d, cutShort.called? ask = some q ∧ q.call.asks = true ∧ s.chains[q.id]? = some d ∧
        q.chain.given d (cutShort.step ask).2.events = 1 ∧ d.kind = some .bodyReadFailure ∧
        FailureKind.bodyReadFailure.ArisesIn q.call) ∧
      warnings (s.step late).2.events ≠ 0 ∧
      ∃ q f, s.called? late = some q ∧ q.chain.failed = true ∧
        (s.step late).2.events = [Chain.droppedRecord f] := by
  intro ask late s c both
  let q : Called := ⟨"r", 0, { reporter := .recording },
    .response ⟨.ok, .empty, .unread (some [.broken "reset"]), defaultPreview⟩, .response .noContent⟩
  let d : Chain := ⟨.recording, true, some .bodyReadFailure⟩
  have hq : cutShort.called? ask = some q := rfl
  have hone : q.chain.given d (cutShort.step ask).2.events = 1 := rfl
  have hwarns : warnings (s.step late).2.events ≠ 0 := by decide
  obtain ⟨-, hcounts, -, hrun, hasks⟩ := no_failure_dropped cutShort
  obtain ⟨-, d', hd', -, hgiven⟩ := hasks ask q hq rfl
  obtain rfl : d = d' := Option.some.inj hd'
  obtain ⟨-, -, kind, hkind, harises⟩ := hgiven hone
  obtain rfl : FailureKind.bodyReadFailure = kind := Option.some.inj hkind
  obtain ⟨-, -, hdrops, -, -⟩ := no_failure_dropped s
  obtain ⟨q', f, hq', -, hfailed, hevents⟩ := hdrops late hwarns
  exact ⟨rfl, hcounts _ c rfl, rfl, hrun [ask, ask] (by simp [ask, Step.directFailure?]),
    ⟨q, d, hq, rfl, hd', hone, rfl, harises⟩, hwarns, q', f, hq', hfailed, hevents⟩

end Session

end Attest
