import Mathlib.Data.List.DropRight
import Attest.Proofs.Chain.Request
import Attest.Proofs.Session.Called

/-!
Histories of a chain: the calls on its holders in the order of a session, whatever else happens.

A chain stands for the first failure since the last reset. Its failed flag, its kind and the last
message of its reporter are those of that failure, and the reporter gets one message each time the
chain goes from OK to failed (`chain_follows_first_failure`).
-/

namespace Attest

/-- One call on a holder of a chain: the item and the call, the chain before and after, and what
reached the world outside. -/
structure Moment where
  item : Item
  call : ItemCall
  before : Chain
  after : Chain
  events : List Event

namespace Moment

def request (m : Moment) : Request := m.item.request m.call

/-- What the reporter of the chain was told. -/
def reports (m : Moment) : List String := m.before.reporter.received m.events

/-- Whether the chain went from OK to failed. -/
def fails (m : Moment) : Bool := !m.before.failed && m.after.failed

end Moment

/-- The calls that steps make on holders of the chain of number `id`. -/
def Session.moments (s : Session) (id : Nat) : List Step → List Moment
  | [] => []
  | t :: rest =>
    let (s', answer) := s.step t
    match s.called? t with
    | some q =>
      if q.id = id then
        ⟨q.item, q.call, q.chain, s'.chains[id]?.getD q.chain, answer.events⟩ :: s'.moments id rest
      else s'.moments id rest
    | none => s'.moments id rest

namespace History

/-- All that the reporter was told. -/
def reports (ms : List Moment) : List String := ms.flatMap Moment.reports

def requests (ms : List Moment) : List Request := ms.map Moment.request

/-- The requests after the last reset. -/
def sinceReset (qs : List Request) : List Request := qs.rtakeWhile fun q => q ≠ .reset

/-- The first failure after the last reset. -/
def firstFailure (qs : List Request) : Option Failure :=
  (sinceReset qs).findSome? Request.failure?

/-- The chain `c` is where the moments lead, and tells of the first failure after the last reset. -/
structure FollowsFirst (c : Chain) (ms : List Moment) : Prop where
  kind_isSome : c.kind.isSome = c.failed
  /-- There is one message for each time that the chain went from OK to failed. -/
  reports_length : (reports ms).length = ms.countP Moment.fails
  reports_between : ∀ pre mid post, ms = pre ++ mid ++ post → Request.reset ∉ requests mid →
    (reports mid).length ≤ 1
  failed_eq : c.failed = (firstFailure (requests ms)).isSome
  first : ∀ f, firstFailure (requests ms) = some f → c.kind = some f.kind ∧
    (reports ms).getLast? = some (f.kind.label ++ ": " ++ f.message)
  /-- Only a reset leads back. -/
  recovery : ∀ m ∈ ms, m.before.failed = true → m.after.failed = false → m.request = .reset

/-! ### Moments in a row -/

/-- The moments follow on one another, from the chain `c` to the chain `d`, and each does to its
chain what its request says. -/
def Linked : Chain → List Moment → Chain → Prop
  | c, [], d => c = d
  | c, m :: ms, d =>
    m.before = c ∧ m.after = c.after m.request ∧ m.reports = c.told m.request ∧ Linked m.after ms d

theorem linked_append : ∀ {ms ns : List Moment} {c e : Chain}, Linked c (ms ++ ns) e →
    ∃ d, Linked c ms d ∧ Linked d ns e
  | [], _, c, _, h => ⟨c, rfl, h⟩
  | _ :: _, _, _, _, ⟨hb, ha, hr, h⟩ => by
    obtain ⟨d, hd, he⟩ := linked_append h
    exact ⟨d, ⟨hb, ha, hr, hd⟩, he⟩

/-- Failed chains ignore all but a reset. -/
theorem linked_of_failed : ∀ {ms : List Moment} {c d : Chain}, Linked c ms d → c.failed = true →
    Request.reset ∉ requests ms → reports ms = [] ∧ d = c
  | [], _, _, h, _, _ => ⟨rfl, h.symm⟩
  | m :: ms, c, d, ⟨_, ha, hr, h⟩, hf, hq => by
    have hq' : m.request ≠ .reset ∧ Request.reset ∉ requests ms := by
      simpa [requests, eq_comm] using hq
    rw [Chain.after_of_failed hf hq'.1] at ha
    obtain ⟨hreports, rfl⟩ := linked_of_failed h (ha ▸ hf) hq'.2
    refine ⟨?_, ha⟩
    have hm : m.reports = [] := by rw [hr, Chain.told_of_failed hf]
    simpa [reports, hm] using hreports

/-- Without a reset there is one message at most. -/
theorem linked_reports_le_one : ∀ {ms : List Moment} {c d : Chain}, Linked c ms d →
    Request.reset ∉ requests ms → (reports ms).length ≤ 1
  | [], _, _, _, _ => by simp [reports]
  | m :: ms, c, d, hl@⟨_, ha, hr, h⟩, hq => by
    have hq' : m.request ≠ .reset ∧ Request.reset ∉ requests ms := by
      simpa [requests, eq_comm] using hq
    cases hf : c.failed with
    | true => simp [(linked_of_failed hl hf hq).1]
    | false =>
      have hcons : reports (m :: ms) = m.reports ++ reports ms := rfl
      cases hm : m.request with
      | nothing =>
        rw [hcons, hr, hm, c.told_nothing]
        exact linked_reports_le_one h hq'.2
      | fail f =>
        -- the rest of the moments find the chain failed
        have hf' : m.after.failed = true := by simp [ha, hm, Chain.after, hf]
        rw [hcons, (linked_of_failed h hf' hq'.2).1, hr, hm]
        simp [Chain.told, hf]
      | reset => exact absurd hm hq'.1

/-- A moment brings a message exactly if its chain goes from OK to failed. -/
theorem reports_length_eq {m : Moment} {c : Chain} (hb : m.before = c)
    (ha : m.after = c.after m.request) (hr : m.reports = c.told m.request) :
    m.reports.length = if m.fails then 1 else 0 := by
  unfold Moment.fails
  rw [hr, hb, ha]
  cases m.request <;> cases hf : c.failed <;> simp [Chain.told, Chain.after, hf]

theorem linked_reports_length : ∀ {ms : List Moment} {c d : Chain}, Linked c ms d →
    (reports ms).length = ms.countP Moment.fails
  | [], _, _, _ => rfl
  | m :: ms, c, d, ⟨hb, ha, hr, h⟩ => by
    have hcons : reports (m :: ms) = m.reports ++ reports ms := rfl
    rw [hcons, List.length_append, reports_length_eq hb ha hr, linked_reports_length h,
      List.countP_cons, Nat.add_comm]

theorem linked_recovery : ∀ {ms : List Moment} {c d : Chain}, Linked c ms d →
    ∀ m ∈ ms, m.before.failed = true → m.after.failed = false → m.request = .reset
  | [], _, _, _, _, hm => by simp at hm
  | n :: ms, c, d, ⟨hb, ha, _, h⟩, m, hm => by
    intro hf hok
    rcases List.mem_cons.mp hm with rfl | hm
    · by_contra hq
      rw [hb] at hf
      rw [ha, Chain.after_of_failed hf hq, hf] at hok
      exact absurd hok (by decide)
    · exact linked_recovery h m hm hf hok

/-! ### The first failure -/

/-- The chain that stands for a failure, or for none. -/
def standing (r : Reporter) (f : Option Failure) : Chain := ⟨r, f.isSome, f.map (·.kind)⟩

/-- The first failure after one more request. -/
def next (f : Option Failure) : Request → Option Failure
  | .nothing => f
  | .fail g => f.or (some g)
  | .reset => none

theorem firstFailure_concat (qs : List Request) (q : Request) :
    firstFailure (qs ++ [q]) = next (firstFailure qs) q := by
  cases q with
  | nothing | fail =>
    rw [firstFailure, sinceReset, List.rtakeWhile_concat_pos _ _ _ (by simp)]
    simp [List.findSome?_append, Request.failure?, next, firstFailure, sinceReset]
  | reset =>
    rw [firstFailure, sinceReset, List.rtakeWhile_concat_neg _ _ _ (by simp)]
    rfl

theorem standing_after (r : Reporter) (f : Option Failure) (q : Request) :
    (standing r f).after q = standing r (next f q) := by
  cases q <;> cases f <;> simp [standing, Chain.after, next]

/-- From an OK chain, moments lead to the chain of the first failure, of which the reporter was told
last. -/
theorem linked_standing {r : Reporter} (ms : List Moment) :
    ∀ {d : Chain}, Linked { reporter := r } ms d →
      d = standing r (firstFailure (requests ms)) ∧
      ∀ f, firstFailure (requests ms) = some f → (reports ms).getLast? = some f.text := by
  induction ms using List.reverseRecOn with
  | nil => rintro d rfl; exact ⟨rfl, by simp [requests, firstFailure, sinceReset]⟩
  | append_singleton ms m ih =>
    intro e h
    obtain ⟨d, hd, hb, ha, hr, rfl⟩ := linked_append h
    obtain ⟨rfl, hlast⟩ := ih hd
    have hq : requests (ms ++ [m]) = requests ms ++ [m.request] := by simp [requests]
    have hreports : reports (ms ++ [m]) = reports ms ++ m.reports := by simp [reports]
    rw [hq, firstFailure_concat, hreports, hr]
    refine ⟨by rw [ha, standing_after], ?_⟩
    intro f hf
    cases hm : m.request with
    | nothing => simpa [hm] using hlast f (by simpa [hm, next] using hf)
    | fail g =>
      cases hfirst : firstFailure (requests ms) with
      | none =>
        obtain rfl : g = f := by simpa [hm, hfirst, next] using hf
        simp [standing, Chain.told]
      | some f' =>
        obtain rfl : f' = f := by simpa [hm, hfirst, next] using hf
        simpa [standing, Chain.told] using hlast f' hfirst
    | reset => simp [hm, next] at hf

theorem followsFirst_of_linked {r : Reporter} {ms : List Moment} {d : Chain}
    (h : Linked { reporter := r } ms d) : FollowsFirst d ms := by
  obtain ⟨hd, hlast⟩ := linked_standing ms h
  refine ⟨?_, linked_reports_length h, ?_, by rw [hd]; rfl, ?_, linked_recovery h⟩
  · rw [hd]
    cases firstFailure (requests ms) <;> rfl
  · rintro pre mid post rfl hq
    obtain ⟨_, hleft, _⟩ := linked_append h
    obtain ⟨_, _, hmid⟩ := linked_append hleft
    exact linked_reports_le_one hmid hq
  · intro f hf
    exact ⟨by rw [hd, hf]; rfl, hlast f hf⟩

end History

/-! ### Histories in sessions -/

namespace Session

variable {s : Session} {t : Step} {q : Called} {id : Nat} {c : Chain}

theorem getElem?_of_prefix {α : Type} {l m : List α} {i : Nat} {a : α} (hp : l <+: m)
    (h : l[i]? = some a) : m[i]? = some a := by
  obtain ⟨rest, rfl⟩ := hp
  exact List.getElem?_append_left (List.getElem?_eq_some_iff.mp h).1 ▸ h

/-- A step that calls no holder of a chain leaves it alone. -/
theorem step_chain_of_other (hc : s.chains[id]? = some c)
    (h : ∀ q, s.called? t = some q → q.id ≠ id) : (s.step t).1.chains[id]? = some c := by
  cases hq : s.called? t with
  | none => exact getElem?_of_prefix (step_of_not_called hq).1 hc
  | some q =>
    cases he : q.item.call q.chain q.call with
    | none => rw [step_of_no_call hq he]; exact hc
    | some e =>
      rw [step_of_call hq he, conclude_chains, List.getElem?_set_ne (h q hq)]
      exact hc

/-- A step that calls a holder of a chain does to it what the call requests. -/
theorem step_chain_of_called (h : s.called? t = some q) :
    (s.step t).1.chains[q.id]? = some (q.chain.after (q.item.request q.call)) := by
  obtain ⟨_, _, _, _, hc⟩ := called?_eq_some h
  cases he : q.item.call q.chain q.call with
  | none => rw [step_of_no_call h he, Item.request_of_call_none he]; exact hc
  | some e =>
    have hlt : q.id < s.chains.length := (List.getElem?_eq_some_iff.mp hc).1
    rw [step_of_call h he, conclude_chains, List.getElem?_set_self hlt, Item.call_state he]

/-- What a step requests of the chain of this number. -/
def requestOn (s : Session) (id : Nat) (t : Step) : Request :=
  match s.called? t with
  | some q => if q.id = id then q.item.request q.call else .nothing
  | none => .nothing

/-- A step does to a chain what it requests of it. -/
theorem step_chain (hc : s.chains[id]? = some c) (t : Step) :
    (s.step t).1.chains[id]? = some (c.after (s.requestOn id t)) := by
  unfold requestOn
  cases hq : s.called? t with
  | none => exact step_chain_of_other hc (by simp [hq])
  | some q =>
    by_cases hid : q.id = id
    · obtain ⟨_, _, _, _, hc'⟩ := called?_eq_some hq
      obtain rfl : q.chain = c := Option.some.inj (hc'.symm.trans (hid ▸ hc))
      simpa [hid] using step_chain_of_called hq
    · simpa [hid] using step_chain_of_other hc (by simpa [hq] using hid)

theorem step_told_of_called (h : s.called? t = some q) (hr : q.chain.reporter.returns = true) :
    q.chain.reporter.received (s.step t).2.events = q.chain.told (q.item.request q.call) := by
  cases he : q.item.call q.chain q.call with
  | none => rw [step_of_no_call h he, Item.request_of_call_none he]; rfl
  | some e => rw [step_of_call h he, conclude_events, Item.call_told hr he]

theorem moments_linked : ∀ (steps : List Step) {s : Session} {c : Chain},
    s.chains[id]? = some c → c.reporter.returns = true →
    ∃ d, (s.run steps).1.chains[id]? = some d ∧ History.Linked c (s.moments id steps) d
  | [], _, c, hc, _ => ⟨c, hc, rfl⟩
  | t :: rest, s, c, hc, hr => by
    have skip (h : ∀ q, s.called? t = some q → q.id ≠ id) :
        ∃ d, (s.run (t :: rest)).1.chains[id]? = some d ∧
          History.Linked c ((s.step t).1.moments id rest) d :=
      moments_linked rest (step_chain_of_other hc h) hr
    unfold moments
    cases hq : s.called? t with
    | none => exact skip (by simp [hq])
    | some q =>
      by_cases hid : q.id = id
      · obtain ⟨_, _, _, _, hc'⟩ := called?_eq_some hq
        obtain rfl : q.chain = c := Option.some.inj (hc'.symm.trans (hid ▸ hc))
        have hafter := hid ▸ step_chain_of_called hq
        obtain ⟨d, hd, hlinked⟩ := moments_linked rest hafter (by simpa using hr)
        refine ⟨d, hd, ?_⟩
        simp only [hid, if_true, hafter, Option.getD_some]
        exact ⟨rfl, rfl, step_told_of_called hq hr, hlinked⟩
      · simpa [hid] using skip (by simpa [hq] using hid)

/-- CORRECT: whatever the steps of a session do with the holders of a new chain whose reporter
returns, the chain and its reporter tell of the first failure since the last reset. A chain that was
made failed stays as it was, without a message, until the first reset, and from there on it is like
a new one. -/
theorem chain_follows_first_failure (s : Session) (id : Nat) (r : Reporter)
    (hr : r.returns = true) (steps : List Step) :
    (s.chains[id]? = some { reporter := r } →
      ∃ c, (s.run steps).1.chains[id]? = some c ∧
        History.FollowsFirst c (s.moments id steps)) ∧
    (s.chains[id]? = some (.failedFrom r) →
      ∃ c, (s.run steps).1.chains[id]? = some c ∧
        (Request.reset ∉ History.requests (s.moments id steps) →
          History.reports (s.moments id steps) = [] ∧ c = .failedFrom r) ∧
        ∀ pre m post, s.moments id steps = pre ++ m :: post →
          Request.reset ∉ History.requests pre → m.request = .reset →
          History.reports (pre ++ [m]) = [] ∧ History.FollowsFirst c post) := by
  refine ⟨fun hc => ?_, fun hc => ?_⟩
  · obtain ⟨c, hrun, h⟩ := moments_linked steps hc hr
    exact ⟨c, hrun, History.followsFirst_of_linked h⟩
  · obtain ⟨c, hrun, h⟩ := moments_linked steps hc hr
    refine ⟨c, hrun, History.linked_of_failed h rfl, ?_⟩
    intro pre m post hms hpre hm
    obtain ⟨d, hd, _, ha, hreports, hpost⟩ := History.linked_append (hms ▸ h)
    obtain ⟨hnone, rfl⟩ := History.linked_of_failed hd rfl hpre
    have hfresh : m.after = { reporter := r } := by rw [ha, hm]; rfl
    refine ⟨?_, History.followsFirst_of_linked (hfresh ▸ hpost)⟩
    have hm' : m.reports = [] := by rw [hreports, hm]; rfl
    simpa [History.reports, hm'] using hnone

/-- A value fails its chain, a second failure is dropped, and after a reset a third one counts. -/
def relapse : List Step :=
  [.make (.subject chainName (.value (some .null))) "v",
    .call "v" (.item (.subject (.checkValue .notNull))) "_",
    .call chainName (.item (.chain (.fail (.value "late")))) "_",
    .call chainName (.item (.chain .reset)) "_",
    .call "v" (.item (.subject .toObject)) "o",
    .call "o" (.item (.subject (.member "key"))) "_"]

/-- The chain of a new session, and one that was made failed, in such a relapse. -/
theorem chain_follows_first_failure_in_relapse :
    let s := start (.empty "/")
    let t := (s.step (.make (.chain .log true) chainName)).1
    Reporter.recording.returns = true ∧ s.chains[0]? = some { reporter := .recording } ∧
      (∃ c, (s.run relapse).1.chains[0]? = some c ∧
        History.FollowsFirst c (s.moments 0 relapse)) ∧
      History.reports (s.moments 0 relapse) =
        ["value mismatch: expected non-null value, but got null",
          "value mismatch: expected object, but got null"] ∧
      Reporter.log.returns = true ∧ t.chains[1]? = some (.failedFrom .log) ∧
      (∃ c, (t.run relapse).1.chains[1]? = some c ∧
        ∀ pre m post, t.moments 1 relapse = pre ++ m :: post →
          Request.reset ∉ History.requests pre → m.request = .reset →
          History.reports (pre ++ [m]) = [] ∧ History.FollowsFirst c post) := by
  intro s t
  obtain ⟨c, hc, -, hpost⟩ := (chain_follows_first_failure t 1 .log rfl relapse).2 rfl
  exact ⟨rfl, rfl, (chain_follows_first_failure s 0 .recording rfl relapse).1 rfl, rfl, rfl, rfl,
    c, hc, hpost⟩

end Session

end Attest
