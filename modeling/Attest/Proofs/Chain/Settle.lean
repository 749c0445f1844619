import Attest.Act

/-!
Settling: what an act on a chain comes to.

Acts ask the chain and fail it step by step. On an OK chain most of them come to one thing found, or
one failure; on a failed chain they hand out a placeholder and do nothing. `Chain.settle` says so at
once, and the acts of checks and of things handed out are equal to it.
-/

namespace Attest

theorem Effect.map_unit {σ : Type} (e : Effect σ Unit) : (e.map fun _ => ()) = e := by
  obtain ⟨state, events, outcome⟩ := e
  cases outcome <;> rfl

/-- Ends a call that asserts something. On an OK chain it gives what was found, or fails with the
failure found, in which case the caller gets `placeholder`. On a failed chain nothing happens and
the caller gets `placeholder`, whatever there was to find. -/
def Chain.settle {α : Type} (c : Chain) (found : Except Failure α) (placeholder : α) :
    Effect Chain α :=
  if c.failed then .pure c placeholder
  else
    match found with
    | .ok a => .pure c a
    | .error f => (c.fail f).map fun _ => placeholder

/-- A verdict as something found. -/
def Verdict.found {α : Type} (a : α) : Verdict → Except Failure α
  | none => .ok a
  | some f => .error f

/-! ### Kinds of failures -/

/-- What was found is no failure of another kind than `p` admits. -/
def FailsOnly {α : Type} (p : FailureKind → Prop) (found : Except Failure α) : Prop :=
  ∀ f, found = .error f → p f.kind

section

variable {α β : Type} {p : FailureKind → Prop}

theorem failsOnly_ok (a : α) : FailsOnly p (.ok a) := by
  intro f hf
  cases hf

theorem failsOnly_error {f : Failure} (h : p f.kind) :
    FailsOnly p (.error f : Except Failure α) := by
  rintro _ ⟨⟩
  exact h

theorem failsOnly_map {found : Except Failure α} (h : FailsOnly p found) (g : α → β) :
    FailsOnly p (found.map g) := by
  intro f hf
  cases found with
  | ok a => cases hf
  | error e =>
    obtain rfl : e = f := by simpa [Except.map] using hf
    exact h e rfl

theorem failsOnly_require {ok : Bool} {f : Failure} (h : p f.kind) (a : α) :
    FailsOnly p (Verdict.found a (require ok f)) := by
  cases ok with
  | true => exact failsOnly_ok a
  | false => exact failsOnly_error h

end

/-! ### Settling -/

namespace Chain

variable {α : Type} {c : Chain}

theorem settle_of_failed (hf : c.failed = true) (found : Except Failure α) (placeholder : α) :
    c.settle found placeholder = .pure c placeholder := if_pos hf

theorem settle_ok (a placeholder : α) (hok : c.failed = false) :
    c.settle (.ok a) placeholder = .pure c a := by simp [settle, hok]

theorem settle_error (f : Failure) (placeholder : α) (hok : c.failed = false) :
    c.settle (.error f) placeholder = (c.fail f).map fun _ => placeholder := by simp [settle, hok]

/-- After a failure the chain is failed, whatever it was before. -/
theorem fail_failed (c : Chain) (f : Failure) : (c.fail f).state.failed = true := by
  unfold fail
  split <;> simp_all

theorem settle_map {β : Type} (c : Chain) (found : Except Failure α) (placeholder : α)
    (h : α → β) :
    (c.settle found placeholder).map h = c.settle (found.map h) (h placeholder) := by
  cases hf : c.failed with
  | true => rw [settle_of_failed hf, settle_of_failed hf]; rfl
  | false =>
    cases found with
    | ok a => rw [settle_ok _ _ hf]; exact (settle_ok (h a) _ hf).symm
    | error f =>
      rw [settle_error _ _ hf]
      refine Eq.trans ?_ (settle_error f (h placeholder) hf).symm
      cases ho : (c.fail f).outcome <;> simp [Effect.map, Outcome.map, ho]

end Chain

namespace Act

variable {σ α β : Type} {c : Chain}

/-! ### Acts in a row -/

@[simp] theorem pure_run (a : α) (s : σ) : (pure a : Act σ α) s = .pure s a := rfl

/-- Going on from an act that reaches nothing outside and gives a result. -/
theorem bind_run_of_pure {m : Act σ α} {s t : σ} {a : α} (h : m s = .pure t a)
    (f : α → Act σ β) : (m >>= f) s = f a t := by
  change Act.bind m f s = f a t
  simp only [Act.bind, h, Effect.pure, List.nil_append]

theorem bind_run_of_returned {m : Act σ α} {s : σ} {a : α} (h : (m s).outcome = .returned a)
    (f : α → Act σ β) :
    (m >>= f) s = ⟨(f a (m s).state).state, (m s).events ++ (f a (m s).state).events,
      (f a (m s).state).outcome⟩ := by
  change Act.bind m f s = _
  simp only [Act.bind, h]

theorem bind_run_of_panicked {m : Act σ α} {s : σ} {message : String}
    (h : (m s).outcome = .panicked message) (f : α → Act σ β) :
    (m >>= f) s = ⟨(m s).state, (m s).events, .panicked message⟩ := by
  change Act.bind m f s = _
  simp only [Act.bind, h]

/-- Giving a result after an act. -/
theorem bind_pure_run (m : Act σ α) (f : α → β) (s : σ) :
    (m >>= fun a => (pure (f a) : Act σ β)) s = (m s).map f := by
  cases h : (m s).outcome with
  | returned a =>
    rw [bind_run_of_returned h]
    simp [Effect.map, Effect.pure, h, Outcome.map]
  | panicked message =>
    rw [bind_run_of_panicked h]
    simp [Effect.map, h, Outcome.map]

/-- Acts that are settled one after the other are settled at once: where the first one fails, the
second one finds the chain failed and hands out its own placeholder. -/
theorem bind_run_of_settle {m : Act Chain α} {f : α → Act Chain β} {g : α → Except Failure β}
    {found : Except Failure α} {p : α} {q : β} (hm : m c = c.settle found p)
    (hok : c.failed = false → ∀ a, found = .ok a → f a c = c.settle (g a) q)
    (hq : ∀ d : Chain, d.failed = true → f p d = .pure d q) :
    (m >>= f) c = c.settle (found.bind g) q := by
  cases hf : c.failed with
  | true =>
    rw [Chain.settle_of_failed hf] at hm ⊢
    rw [bind_run_of_pure hm, hq c hf]
  | false =>
    cases found with
    | ok a =>
      rw [Chain.settle_ok _ _ hf] at hm
      rw [bind_run_of_pure hm, hok hf a rfl]
      rfl
    | error e =>
      rw [Chain.settle_error _ _ hf] at hm
      have hright : c.settle ((Except.error e).bind g) q = (c.fail e).map fun _ => q :=
        Chain.settle_error e q hf
      rw [hright]
      cases ho : (c.fail e).outcome with
      | returned u =>
        have hp : (m c).outcome = .returned p := by rw [hm]; simp [Effect.map, ho, Outcome.map]
        rw [bind_run_of_returned hp, hm]
        simp [Effect.map, ho, Outcome.map, hq _ (c.fail_failed e), Effect.pure]
      | panicked message =>
        have hp : (m c).outcome = .panicked message := by
          rw [hm]; simp [Effect.map, ho, Outcome.map]
        rw [bind_run_of_panicked hp, hm]
        simp [Effect.map, ho, Outcome.map]

theorem isFailed_bind (f : Bool → Act Chain α) (c : Chain) :
    (isFailed >>= f) c = f c.failed c := rfl

/-! ### Checks and things handed out -/

/-- Failing and then handing out a placeholder. -/
theorem fail_then (f : Failure) (placeholder : α) (c : Chain) :
    (fail f >>= fun _ => (pure placeholder : Act Chain α)) c =
      (c.fail f).map fun _ => placeholder :=
  bind_pure_run (fail f) (fun _ => placeholder) c

theorem check_run (v : Verdict) (c : Chain) : check v c = c.settle (v.found ()) () := by
  unfold check
  rw [isFailed_bind]
  cases hf : c.failed with
  | true => rw [c.settle_of_failed hf]; rfl
  | false =>
    cases v with
    | none => rw [Verdict.found, Chain.settle_ok _ _ hf]; rfl
    | some f =>
      rw [Verdict.found, Chain.settle_error f _ hf, Effect.map_unit]
      rfl

theorem obtain_run (found : Except Failure α) (placeholder : α) (c : Chain) :
    obtain found placeholder c = c.settle found placeholder := by
  unfold obtain
  rw [isFailed_bind]
  cases hf : c.failed with
  | true => rw [c.settle_of_failed hf]; rfl
  | false =>
    cases found with
    | ok a => rw [Chain.settle_ok _ _ hf]; rfl
    | error f =>
      rw [Chain.settle_error f _ hf]
      exact fail_then f placeholder c

end Act

end Attest
