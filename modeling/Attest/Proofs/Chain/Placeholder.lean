import Attest.Proofs.Chain.Frozen
import Attest.Proofs.Chain.History
import Attest.Proofs.Session.Deed

/-!
What failed chains let calls hand out.

A failed chain stays as it is until it is reset (`Session.run_of_unreset`). Meanwhile the calls that
ask it hand out placeholders, which do not depend on what they are called on. Two calls do not ask
it (`Item.leaves_of_failed`): a body may still be given another limit, and an object still tells its
keys, though it gives away none of its members (`Session.accessors_on_failed_chain`).
-/

namespace Attest

/-- What stands in for the subject that a call hands out, where its chain is failed. None: the call
hands out nothing, or what it was called on. -/
def ItemCall.placeholder? : ItemCall → Option Subject
  | .response .headers => some Subject.noHeaders
  | .response (.header _) | .response .text => some Subject.noText
  | .response .body => some Subject.noBody
  | .response .json => some Subject.noValue
  | .subject (.headerValue _) | .subject .toText => some Subject.noText
  | .subject .toObject => some Subject.noObject
  | .subject .toArray | .subject .keys => some Subject.noArray
  | .subject .toNumber => some Subject.noNumber
  | .subject .toBoolean => some Subject.noBoolean
  | .subject (.member _) | .subject (.element _) => some Subject.noValue
  | _ => none

/-! ### Calls -/

/-- What a call leaves on a failed chain: what an object or a body gives regardless, or else the
placeholder, if it hands out anything. -/
def Item.Leaves (x : Item) (k : ItemCall) (reply : Reply) : Prop :=
  (∃ ms, x = .subject (.object ms) ∧ k = .subject .keys ∧
    reply = .subject (.array ((Json.keys ms).map .string))) ∨
  (∃ bytes limit limit', x = .subject (.body bytes limit) ∧ k = .subject (.limitPreview limit') ∧
    reply = .subject (.body bytes limit')) ∨
  k ≠ .subject .keys ∧ (∀ limit, k ≠ .subject (.limitPreview limit)) ∧
    ∀ y, reply = .subject y ↔ k.placeholder? = some y

theorem ResponseCall.leaves_placeholder (r : Response) (k : ResponseCall) :
    (Item.response r).Leaves (.response k) k.placeholder := by
  refine .inr (.inr ⟨by simp, by simp, fun y => ?_⟩)
  cases k <;> simp [placeholder, ItemCall.placeholder?]

theorem Subject.leaves_placeholder {s : Subject} {k : Call} {j : Judgement}
    (hj : s.judge k = some j) : (Item.subject s).Leaves (.subject k) j.placeholder := by
  cases s <;> cases k <;> simp only [judge, Option.some.injEq, reduceCtorEq] at hj <;> subst hj
  case object.keys ms => exact .inl ⟨ms, rfl, rfl, rfl⟩
  case body.limitPreview bytes limit limit' =>
    exact .inr (.inl ⟨bytes, limit, limit', rfl, rfl, rfl⟩)
  all_goals
    refine .inr (.inr ⟨by simp, by simp, fun y => ?_⟩)
    simp [Judgement.placeholder, ItemCall.placeholder?]

theorem Item.leaves_of_failed {c : Chain} {x : Item} {k : ItemCall}
    {e : Effect (Chain × Item) Reply} (hf : c.failed = true) (hk : k.asks = true)
    (h : x.call c k = some e) : ∃ reply, e.outcome = .returned reply ∧ x.Leaves k reply := by
  rcases call_cases h with ⟨q, rfl, rfl, rfl⟩ | ⟨r, q, rfl, rfl, rfl⟩ | ⟨s, q, j, rfl, rfl, hj, rfl⟩
  · simp [ItemCall.asks] at hk
  · refine ⟨q.placeholder, ?_, q.leaves_placeholder r⟩
    rw [r.call_of_failed q hf]
    rfl
  · refine ⟨j.placeholder, ?_, Subject.leaves_placeholder hj⟩
    rw [j.settle_found, Chain.settle_of_failed hf]
    rfl

namespace Session

variable {s : Session} {t : Step} {q : Called} {id : Nat}

/-! ### Runs -/

/-- No step resets the chain of this number. -/
def Unreset (id : Nat) : Session → List Step → Prop
  | _, [] => True
  | s, t :: rest => s.requestOn id t ≠ .reset ∧ Unreset id (s.step t).1 rest

/-- A failed chain stays as it is until it is reset. -/
theorem run_of_unreset : ∀ (steps : List Step) {s : Session} {c : Chain},
    s.chains[id]? = some c → c.failed = true → s.Unreset id steps →
    (s.run steps).1.chains[id]? = some c
  | [], _, _, hc, _, _ => hc
  | t :: rest, s, c, hc, hf, ⟨ht, hrest⟩ => by
    have hstep := step_chain hc t
    rw [Chain.after_of_failed hf ht] at hstep
    exact run_of_unreset rest hstep hf hrest

/-- CORRECT. Once a chain is failed, and for as long as it is not reset, whatever else is done in
the session, the calls on any holder of the chain hand out placeholders with the same chain: no
headers, the empty text, no bytes, the absent value, an object and an array without anything, zero
and false. They depend on the call alone, not on what the holder is or was given while the chain was
OK. The keys of an object are no such placeholder; they are told as ever. Nothing else is handed out
but a body that is given another limit. -/
theorem accessors_on_failed_chain (s : Session) (id : Nat) (c : Chain) (steps : List Step)
    (hc : s.chains[id]? = some c) (hf : c.failed = true)
    (hreset : s.Unreset id steps) :
    let s' := (s.run steps).1
    ∀ t q, s'.called? t = some q → q.id = id → q.call.asks = true →
      (q.item.call q.chain q.call).isSome = true →
      (∀ p, q.call.placeholder? = some p → q.call ≠ .subject .keys → s'.HandsOut t id p) ∧
      (∀ ms, q.item = .subject (.object ms) → q.call = .subject .keys →
        s'.HandsOut t id (.array ((Json.keys ms).map .string))) ∧
      ∀ y, s'.HandsOut t id y → q.call.placeholder? = some y ∨ q.call = .subject .keys ∨
        ∃ limit, q.call = .subject (.limitPreview limit) := by
  intro s' t q hq hid hk hhas
  obtain ⟨e, he⟩ := Option.isSome_iff_exists.mp hhas
  have hchain : q.chain.failed = true := by
    obtain ⟨_, _, _, _, hc'⟩ := called?_eq_some hq
    have hstill : s'.chains[id]? = some c := run_of_unreset steps hc hf hreset
    obtain rfl : q.chain = c := Option.some.inj (hc'.symm.trans (hid ▸ hstill))
    exact hf
  obtain ⟨reply, hout, hleaves⟩ := Item.leaves_of_failed hchain hk he
  have hhands (y : Subject) : s'.HandsOut t id y ↔ reply = .subject y := by
    rw [← hid, handsOut_iff hq he, hout, Outcome.returned.injEq]
  simp only [hhands]
  rcases hleaves with ⟨ms, hx, hcall, rfl⟩ | ⟨bytes, limit, limit', hx, hcall, rfl⟩ |
    ⟨hkeys, hlimit, hreply⟩
  · refine ⟨fun _ _ h => absurd hcall h, fun ms' hx' _ => ?_, fun _ _ => .inr (.inl hcall)⟩
    obtain rfl : ms = ms' := by simpa using hx.symm.trans hx'
    rfl
  · refine ⟨fun p hp => ?_, fun _ _ h => ?_, fun _ _ => .inr (.inr ⟨limit', hcall⟩)⟩
    · simp [hcall, ItemCall.placeholder?] at hp
    · simp [hcall] at h
  · exact ⟨fun p hp _ => (hreply p).mpr hp, fun _ _ h => absurd h hkeys,
      fun y hy => .inl ((hreply y).mp hy)⟩

/-- An object with a member, taken from a value before their chain fails. -/
def keptObject : List Step :=
  [.make (.subject chainName (.value (some (.object [("a", .integer 1)])))) "v",
    .call "v" (.item (.subject .toObject)) "o",
    .call chainName (.item (.chain (.fail (.value "early")))) "_"]

/-- Later on the object is asked for a text that it does not have, and for its member. -/
theorem accessors_on_failed_chain_of_kept_object :
    let s := ((start (.empty "/")).run keptObject).1
    let c : Chain := ⟨.recording, true, some .valueMismatch⟩
    let steps : List Step := [.call "v" (.item (.subject .toText)) "_"]
    s.chains[0]? = some c ∧ c.failed = true ∧ s.Unreset 0 steps ∧
      (s.run steps).1.HandsOut (.call "o" (.item (.subject (.member "a"))) "m") 0
        Subject.noValue ∧
      (s.run steps).1.HandsOut (.call "o" (.item (.subject .keys)) "k") 0
        (.array [.string "a"]) := by
  intro s c steps
  have hreset : s.Unreset 0 steps := by
    have hrequest : s.requestOn 0 (.call "v" (.item (.subject .toText)) "_") =
        .fail (wrongKind "string" (some (.object [("a", .integer 1)]))) := rfl
    exact ⟨by simp [hrequest], trivial⟩
  have h := accessors_on_failed_chain s 0 c steps rfl rfl hreset
  exact ⟨rfl, rfl, hreset, (h _ _ rfl rfl rfl rfl).1 _ rfl (by simp),
    (h _ _ rfl rfl rfl rfl).2.1 [("a", .integer 1)] rfl rfl⟩

/-- Not all that is handed out on a failed chain is a placeholder. -/
theorem keys_told_on_failed_chain :
    ¬ ∀ (s : Session) (t : Step) (q : Called) (p : Subject), s.called? t = some q →
      q.chain.failed = true → (q.item.call q.chain q.call).isSome = true →
      q.call.placeholder? = some p → s.HandsOut t q.id p := by
  intro h
  let s := ((start (.empty "/")).run keptObject).1
  have hkeys := (h s (.call "o" (.item (.subject .keys)) "k") _ _ rfl rfl rfl rfl).ending
  cases hkeys

end Session

end Attest
