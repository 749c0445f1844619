import Attest.Proofs.Chain.Request
import Attest.Proofs.Session.Called

/-!
Failed chains freeze everything.

While a chain is failed, no assertion or accessor of any of its holders changes anything: no chain,
no message of the recording, no response with its body. Nothing reaches the world outside and no
call panics; calls only name what they hand out (`failed_chain_freezes`).
-/

namespace Attest

/-- Whether the call is an assertion or an accessor, not one on the chain itself. -/
def ItemCall.asks : ItemCall → Bool
  | .chain _ => false
  | .response _ | .subject _ => true

theorem Judgement.settle_of_failed {c : Chain} (hf : c.failed = true) (j : Judgement) :
    ∃ reply, j.settle c = .pure c reply :=
  ⟨j.placeholder, (j.settle_found c).trans (Chain.settle_of_failed hf _ _)⟩

/-- On a failed chain a call leaves the chain and the item as they are, and returns. -/
theorem Item.call_of_failed {c : Chain} {x : Item} {k : ItemCall}
    {e : Effect (Chain × Item) Reply} (hf : c.failed = true) (hk : k.asks = true)
    (h : x.call c k = some e) : ∃ reply, e = .pure (c, x) reply := by
  rcases call_cases h with ⟨q, rfl, rfl, rfl⟩ | ⟨r, q, rfl, rfl, rfl⟩ | ⟨s, q, j, rfl, rfl, _, rfl⟩
  · simp [ItemCall.asks] at hk
  · rw [r.call_of_failed q hf]
    exact ⟨q.placeholder, rfl⟩
  · obtain ⟨reply, hreply⟩ := j.settle_of_failed hf
    exact ⟨reply, by rw [hreply]; rfl⟩

namespace Session

variable {s : Session} {t : Step} {q : Called} {id : Nat} {c : Chain}

/-- Each step calls an assertion or an accessor of an object that holds the chain of number `id`. -/
def AsksOnly (id : Nat) : Session → List Step → Prop
  | _, [] => True
  | s, t :: rest =>
    (∃ q, s.called? t = some q ∧ q.id = id ∧ q.call.asks = true) ∧ AsksOnly id (s.step t).1 rest

/-- The session `s'` is `s`, but for what the names stand for. -/
structure Unchanged (s s' : Session) (names : List String) : Prop where
  chains : s'.chains = s.chains
  recording : s'.recording = s.recording
  files : s'.files = s.files
  objects : ∀ n, n ∉ names → s'.object? n = s.object? n

theorem unchanged_refl (s : Session) (names : List String) : Unchanged s s names :=
  ⟨rfl, rfl, rfl, fun _ _ => rfl⟩

theorem unchanged_trans {s₁ s₂ s₃ : Session} {name : String} {names : List String}
    (h : Unchanged s₁ s₂ [name]) (h' : Unchanged s₂ s₃ names) :
    Unchanged s₁ s₃ (name :: names) := by
  refine ⟨h'.chains.trans h.chains, h'.recording.trans h.recording, h'.files.trans h.files, ?_⟩
  intro n hn
  have hne : n ≠ name ∧ n ∉ names := by simpa using hn
  rw [h'.objects n hne.2, h.objects n (by simpa using hne.1)]

/-- A call left nothing but what it handed out. -/
def Answer.Quiet (c : Chain) (a : Answer) : Prop :=
  a.events = [] ∧ a.chain = some c ∧ ∀ m, a.ending ≠ .panicked m

theorem hand_unchanged (s : Session) (id : Nat) (as : String) (reply : Reply) :
    Unchanged s (s.hand id as reply).1 [as] := by
  cases reply with
  | nothing | texts => exact unchanged_refl s _
  | subject x => exact ⟨rfl, rfl, rfl, fun n hn => object?_bind_of_ne s (by simpa using hn) _⟩

theorem hand_ne_panicked (s : Session) (id : Nat) (as : String) (reply : Reply) (m : String) :
    (s.hand id as reply).2 ≠ .panicked m := by
  cases reply <;> simp [hand]

/-- Keeping what a call left that changed neither its chain nor its item. -/
theorem conclude_pure {on as : String} {x : Item} {reply : Reply}
    (ho : s.object? on = some (.item id x)) (hc : s.chains[id]? = some c) :
    Unchanged s (s.conclude on id (.pure (c, x) reply) as).1 [as] ∧
      Answer.Quiet c (s.conclude on id (.pure (c, x) reply) as).2 := by
  have hchains : s.chains.set id c = s.chains := by
    obtain ⟨hlt, rfl⟩ := List.getElem?_eq_some_iff.mp hc
    exact List.set_getElem_self hlt
  have hrebind : Unchanged s
      (((s.setChain id c).bind on (.item id x)).record []) [] := by
    refine ⟨hchains, by simp [record, bind, setChain], rfl, fun n _ => ?_⟩
    rw [record_object?]
    by_cases hn : n = on
    · rw [hn, object?_bind_self, ho]
    · rw [object?_bind_of_ne _ hn, setChain_object?]
  refine ⟨?_, rfl, rfl, hand_ne_panicked _ id as reply⟩
  have hhand := hand_unchanged (((s.setChain id c).bind on (.item id x)).record []) id as reply
  exact ⟨hhand.chains.trans hrebind.chains, hhand.recording.trans hrebind.recording,
    hhand.files.trans hrebind.files,
    fun n hn => (hhand.objects n hn).trans (hrebind.objects n (by simp))⟩

theorem step_of_failed (hc : s.chains[id]? = some c) (hf : c.failed = true)
    (hq : s.called? t = some q) (hid : q.id = id) (hk : q.call.asks = true) :
    Unchanged s (s.step t).1 [t.name] ∧ Answer.Quiet c (s.step t).2 := by
  obtain ⟨_, _, _, ho, hc'⟩ := called?_eq_some hq
  obtain rfl : q.chain = c := Option.some.inj (hc'.symm.trans (hid ▸ hc))
  subst hid
  cases he : q.item.call q.chain q.call with
  | none =>
    rw [step_of_no_call hq he]
    exact ⟨unchanged_refl s _, rfl, hc, fun m => by simp [refused]⟩
  | some e =>
    obtain ⟨reply, rfl⟩ := Item.call_of_failed hf hk he
    rw [step_of_call hq he]
    exact conclude_pure ho hc

/-- CORRECT: on a failed chain, assertions and accessors in any number, with any arguments, change
no chain, no message and no object (a response with its body and its stream is one), bring about no
event and never panic. Only the names that they give to what they hand out stand for something else
afterwards. -/
theorem failed_chain_freezes (id : Nat) {c : Chain} (hf : c.failed = true) :
    ∀ (steps : List Step) (s : Session), s.chains[id]? = some c → s.AsksOnly id steps →
      Unchanged s (s.run steps).1 (steps.map Step.name) ∧
        ∀ a ∈ (s.run steps).2, Answer.Quiet c a
  | [], s, _, _ => ⟨unchanged_refl s _, by simp [run]⟩
  | t :: rest, s, hc, ⟨⟨_, hq, hid, hk⟩, hrest⟩ => by
    obtain ⟨hstep, hanswer⟩ := step_of_failed hc hf hq hid hk
    obtain ⟨hrun, hanswers⟩ := failed_chain_freezes id hf rest (s.step t).1
      (by rw [hstep.chains]; exact hc) hrest
    refine ⟨unchanged_trans hstep hrun, ?_⟩
    intro a ha
    rcases List.mem_cons.mp ha with rfl | ha
    · exact hanswer
    · exact hanswers a ha

/-- A response whose body has not been read and a value share a chain that has failed. -/
def fallen : List Step :=
  [.make (.response (.chain chainName) 200 [] (some [.data [0x31]]) none) "r",
    .make (.subject chainName (.value (some .null))) "v",
    .call chainName (.item (.chain (.fail (.value "early")))) "_"]

/-- Reads of the body, and arguments that could not be used on an OK chain. -/
def inVain : List Step :=
  [.call "r" (.item (.response .body)) "b",
    .call "r" (.item (.response .json)) "j",
    .call "j" (.item (.subject (.checkValue (.equal (.integer 18446744073709551616))))) "_",
    .call "v" (.item (.subject (.checkValue (.schema (.string "no schema"))))) "_",
    .call "r" (.item (.response (.header "x"))) "h",
    .call "h" (.item (.subject (.checkText (.matching "(")))) "_"]

/-- The response of such a session keeps its stream, and the recording its one message. -/
theorem failed_chain_freezes_in_vain :
    let s := ((start (.empty "/")).run fallen).1
    let c : Chain := ⟨.recording, true, some .valueMismatch⟩
    s.chains[0]? = some c ∧ c.failed = true ∧ s.AsksOnly 0 inVain ∧
      s.recording = ["value mismatch: early"] ∧
      (s.run inVain).1.recording = ["value mismatch: early"] ∧
      (s.run inVain).1.object? "r" = s.object? "r" ∧
      s.object? "r" = some (.item 0
        (.response { status := .ok, headers := .empty, body := .unread (some [.data [0x31]]) })) ∧
      ∀ a ∈ (s.run inVain).2, Answer.Quiet c a := by
  intro s c
  have hasks : s.AsksOnly 0 inVain :=
    ⟨⟨_, rfl, rfl, rfl⟩, ⟨_, rfl, rfl, rfl⟩, ⟨_, rfl, rfl, rfl⟩, ⟨_, rfl, rfl, rfl⟩,
      ⟨_, rfl, rfl, rfl⟩, ⟨_, rfl, rfl, rfl⟩, trivial⟩
  obtain ⟨h, hquiet⟩ := failed_chain_freezes 0 rfl inVain s rfl hasks
  exact ⟨rfl, rfl, hasks, rfl, h.recording, h.objects "r" (by decide), rfl, hquiet⟩

end Session

end Attest
