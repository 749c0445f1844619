import Attest.Proofs.Chain.Request
import Attest.Proofs.Subject.Path

/-!
What the last of some calls comes to.

Calls are made in a row, each on the subject that the one before handed out, and the last of them
is a check or hands something out. On an OK chain it gives what its judgement finds
(`Subject.gives_iff`), or one of the calls fails the chain, once and with a mismatch
(`Subject.fails_iff`), and which failure that is can be told from it (`Subject.FailsWith.unique`);
there is nothing else (`Subject.Gives.not_fails`).
-/

namespace Attest

/-! ### Failures by what they do -/

/-- A report tells its failure, given the kind. -/
theorem Failure.eq_of_text {f g : Failure} (hkind : f.kind = g.kind) (h : f.text = g.text) :
    f = g := by
  obtain ⟨kind, message⟩ := f
  obtain ⟨kind', message'⟩ := g
  obtain rfl : kind = kind' := hkind
  obtain rfl : message = message' := String.append_right_inj _ |>.mp h
  rfl

/-- What is done to an OK chain, and to its reporter, tells the failure. -/
theorem Chain.fail_inj {α : Type} {c : Chain} {f g : Failure} {a b : α} (hok : c.failed = false)
    (h : ((c.fail f).map fun _ => a) = (c.fail g).map fun _ => b) : f = g := by
  simp only [fail, hok, Bool.false_eq_true, if_false, Effect.map, Effect.mk.injEq] at h
  obtain ⟨hstate, hevents, houtcome⟩ := h
  have hkind : f.kind = g.kind := Option.some.inj (congrArg Chain.kind hstate)
  refine Failure.eq_of_text hkind ?_
  cases hreporter : c.reporter <;> rw [hreporter] at hevents houtcome
  case panic => exact Outcome.panicked.inj houtcome
  all_goals simpa [Reporter.events] using hevents

namespace Subject

variable {s t u : Subject} {k : Call} {ks : List Call} {c : Chain} {j : Judgement} {f : Failure}
  {reply : Reply}

/-! ### Calls -/

/-- The call on what was handed out. None: there is no such call. -/
def last (k : Call) : Option Subject → Act Chain (Option Reply)
  | none => return none
  | some u =>
    match u.act k with
    | none => return none
    | some m => do return some (← m)

/-- Calls in a row, and what the last one gives. -/
def ask (s : Subject) (ks : List Call) (k : Call) : Act Chain (Option Reply) := do
  last k (← s.follow ks)

theorem last_run (hj : u.judge k = some j) (c : Chain) :
    last k (some u) c = c.settle (j.found.map some) (some j.placeholder) := by
  cases hm : u.act k with
  | none => simp [judge_eq_none hm] at hj
  | some m =>
    obtain ⟨j', hj', hrun⟩ := exists_judge hm
    obtain rfl := Option.some.inj (hj.symm.trans hj')
    have hlast : last k (some u) c = (m c).map some := by
      simp only [last, hm]
      exact Act.bind_pure_run ..
    rw [hlast, hrun, j.settle_found, Chain.settle_map]

/-- On a failed chain nothing is done. -/
theorem last_silent (k : Call) (u? : Option Subject) :
    ∃ q, ∀ d : Chain, d.failed = true → last k u? d = .pure d q := by
  cases u? with
  | none => exact ⟨none, fun _ _ => rfl⟩
  | some u =>
    cases hm : u.act k with
    | none => exact ⟨none, fun d _ => by simp only [last, hm]; rfl⟩
    | some m =>
      obtain ⟨j, hj, -⟩ := exists_judge hm
      exact ⟨some j.placeholder, fun d hd => by
        rw [last_run hj, Chain.settle_of_failed hd]⟩

theorem ask_found (h : s.follow ks c = .pure c (some u)) : s.ask ks k c = last k (some u) c :=
  Act.bind_run_of_pure h _

theorem ask_failing {u? : Option Subject} (hok : c.failed = false)
    (h : s.follow ks c = (c.fail f).map fun _ => u?) :
    ∃ q, s.ask ks k c = (c.fail f).map fun _ => q := by
  obtain ⟨q, hq⟩ := last_silent k u?
  have hfollow : s.follow ks c = c.settle (.error f) u? :=
    h.trans (Chain.settle_error f u? hok).symm
  have hsettle : s.ask ks k c = c.settle (.error f) q :=
    Act.bind_run_of_settle (g := fun _ => .ok none) hfollow (fun _ _ ha => by cases ha) hq
  exact ⟨q, hsettle.trans (Chain.settle_error f q hok)⟩

/-! ### What calls come to -/

/-- The last call gives the reply, and the chain stays as it is. -/
def Gives (s : Subject) (ks : List Call) (k : Call) (c : Chain) (reply : Reply) : Prop :=
  s.ask ks k c = .pure c (some reply)

/-- The check at the end of the calls passes. -/
abbrev Passes (s : Subject) (ks : List Call) (k : Call) (c : Chain) : Prop :=
  s.Gives ks k c .nothing

/-- The chain is failed, once and with a mismatch, whatever is handed out then. -/
def Fails (s : Subject) (ks : List Call) (k : Call) (c : Chain) : Prop :=
  ∃ f q, f.kind = .valueMismatch ∧ s.ask ks k c = (c.fail f).map fun _ => q

/-- The chain is failed, once and with this failure, whatever is handed out then. -/
def FailsWith (s : Subject) (ks : List Call) (k : Call) (c : Chain) (f : Failure) : Prop :=
  ∃ q, s.ask ks k c = (c.fail f).map fun _ => q

/-- Calls that leave an OK chain alone have not failed it. -/
theorem Gives.not_failsWith (h : s.Gives ks k c reply) (hok : c.failed = false) :
    ¬ s.FailsWith ks k c f := by
  rintro ⟨q, hfails⟩
  have hstate : c = (c.fail f).state := congrArg Effect.state (h.symm.trans hfails)
  have hfailed := c.fail_failed f
  rw [← hstate, hok] at hfailed
  cases hfailed

theorem Gives.not_fails (h : s.Gives ks k c reply) (hok : c.failed = false) :
    ¬ s.Fails ks k c := by
  rintro ⟨f, q, -, hfails⟩
  exact h.not_failsWith hok ⟨q, hfails⟩

theorem FailsWith.unique {g : Failure} (h : s.FailsWith ks k c f) (h' : s.FailsWith ks k c g)
    (hok : c.failed = false) : f = g := by
  obtain ⟨q, hq⟩ := h
  obtain ⟨q', hq'⟩ := h'
  exact Chain.fail_inj hok (hq.symm.trans hq')

theorem gives_of_found (hok : c.failed = false) (h : s.follow ks c = .pure c (some u))
    (hj : u.judge k = some j) (hfound : j.found = .ok reply) : s.Gives ks k c reply := by
  rw [Gives, ask_found h, last_run hj, hfound]
  exact Chain.settle_ok _ _ hok

theorem failsWith_of_found (hok : c.failed = false) (h : s.follow ks c = .pure c (some u))
    (hj : u.judge k = some j) (hfound : j.found = .error f) : s.FailsWith ks k c f := by
  refine ⟨some j.placeholder, ?_⟩
  rw [ask_found h, last_run hj, hfound]
  exact Chain.settle_error _ _ hok

theorem fails_of_found (hok : c.failed = false) (h : s.follow ks c = .pure c (some u))
    (hj : u.judge k = some j) (hfound : j.found = .error f) : s.Fails ks k c := by
  obtain ⟨q, hq⟩ := failsWith_of_found hok h hj hfound
  exact ⟨f, q, judge_kind hj (by rw [j.request_found, hfound]; rfl), hq⟩

/-- Once the calls have led to a subject, the last one gives what its judgement finds. -/
theorem gives_iff (hok : c.failed = false) (h : s.follow ks c = .pure c (some u))
    (hj : u.judge k = some j) : s.Gives ks k c reply ↔ j.found = .ok reply := by
  refine ⟨fun hgives => ?_, gives_of_found hok h hj⟩
  cases hfound : j.found with
  | ok reply' =>
    have hout := congrArg Effect.outcome (hgives.symm.trans (gives_of_found hok h hj hfound))
    cases hout
    rfl
  | error f => exact absurd (fails_of_found hok h hj hfound) (hgives.not_fails hok)

theorem fails_iff (hok : c.failed = false) (h : s.follow ks c = .pure c (some u))
    (hj : u.judge k = some j) : s.Fails ks k c ↔ ∃ f, j.found = .error f := by
  refine ⟨fun hfails => ?_, fun ⟨_, hfound⟩ => fails_of_found hok h hj hfound⟩
  cases hfound : j.found with
  | ok reply => exact absurd hfails ((gives_of_found hok h hj hfound).not_fails hok)
  | error f => exact ⟨f, rfl⟩

theorem failsWith_iff (hok : c.failed = false) (h : s.follow ks c = .pure c (some u))
    (hj : u.judge k = some j) : s.FailsWith ks k c f ↔ j.found = .error f := by
  refine ⟨fun hfails => ?_, failsWith_of_found hok h hj⟩
  cases hfound : j.found with
  | ok reply => exact absurd hfails ((gives_of_found hok h hj hfound).not_failsWith hok)
  | error g => rw [hfails.unique (failsWith_of_found hok h hj hfound) hok]

/-- A check passes where what it requires holds, and fails elsewhere. -/
theorem passes_iff {holds : Bool} (hok : c.failed = false) (h : s.follow ks c = .pure c (some u))
    (hj : u.judge k = some (.check (require holds f))) : s.Passes ks k c ↔ holds = true := by
  refine (gives_iff hok h hj).trans ?_
  cases holds <;> simp [Judgement.found, require, Verdict.found]

theorem fails_check_iff {holds : Bool} (hok : c.failed = false)
    (h : s.follow ks c = .pure c (some u)) (hj : u.judge k = some (.check (require holds f))) :
    s.Fails ks k c ↔ holds = false := by
  refine (fails_iff hok h hj).trans ?_
  cases holds <;> simp [Judgement.found, require, Verdict.found]

theorem failsWith_check_iff {holds : Bool} {g : Failure} (hok : c.failed = false)
    (h : s.follow ks c = .pure c (some u)) (hj : u.judge k = some (.check (require holds g))) :
    s.FailsWith ks k c f ↔ holds = false ∧ f = g := by
  refine (failsWith_iff hok h hj).trans ?_
  cases holds <;> simp [Judgement.found, require, Verdict.found, eq_comm]

/-! ### Calls on a part -/

/-- A part of a value gives what is asked of it where there is such a part. -/
theorem gives_step {v : Json} {st : PathStep} (hok : c.failed = false) :
    (value (some v)).Gives st.calls k c reply ↔
      ∃ w, v.child? st = some w ∧ (value (some w)).Gives [] k c reply := by
  cases h : v.child? st with
  | some w =>
    have hfollow := follow_step h hok []
    rw [List.append_nil] at hfollow
    have hask : (value (some v)).ask st.calls k c = (value (some w)).ask [] k c :=
      (ask_found hfollow).trans (ask_found rfl).symm
    simp [Gives, hask]
  | none =>
    have hfollow : (value (some v)).follow (st.calls ++ []) c =
        (c.fail (st.fault v)).map fun _ => some noValue :=
      follow_step_failing h hok fun _ _ => rfl
    rw [List.append_nil] at hfollow
    obtain ⟨q, hq⟩ := ask_failing (k := k) hok hfollow
    have hkind : (st.fault v).kind = .valueMismatch := by cases st <;> cases v <;> rfl
    have hfails : (value (some v)).Fails st.calls k c := ⟨st.fault v, q, hkind, hq⟩
    simp only [reduceCtorEq, false_and, exists_false, iff_false]
    exact fun hgives => hgives.not_fails hok hfails

/-- The member of an object is handed out where there is one of the name. -/
theorem gives_member {ms : Json.Members} {key : String} (hok : c.failed = false) :
    (value (some (.object ms))).Gives [.toObject] (.member key) c reply ↔
      ∃ w, ms.lookup key = some w ∧ reply = .subject (.value (some w)) := by
  refine (gives_iff hok (follow_found rfl hok) (judge_member ms key)).trans ?_
  cases ms.lookup key <;> simp [Judgement.found, Except.map, eq_comm]

theorem fails_member {ms : Json.Members} {key : String} (hok : c.failed = false) :
    (value (some (.object ms))).Fails [.toObject] (.member key) c ↔ ms.lookup key = none := by
  refine (fails_iff hok (follow_found rfl hok) (judge_member ms key)).trans ?_
  cases ms.lookup key <;> simp [Judgement.found, Except.map]

end Subject

end Attest
