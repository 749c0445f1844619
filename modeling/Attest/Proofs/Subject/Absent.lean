import Attest.Proofs.Chain.Placeholder
import Attest.Proofs.Response.Limit
import Attest.Proofs.Subject.Calls

/-!
Absent values.

A call for a value that leaves its chain failed hands out the absent value, and that it stays, also
once the chain is reset (`Session.absent_value_holds_nothing`). Everything that wants a value there,
of any kind or one in particular, then fails with a mismatch. A schema alone takes it for null.
-/

namespace Attest

/-! ### Where absent values come from -/

/-- A call that hands out a value. -/
inductive ItemCall.GivesValue : ItemCall → Prop
  | json : GivesValue (.response .json)
  | member (key : String) : GivesValue (.subject (.member key))
  | element (index : Nat) : GivesValue (.subject (.element index))

namespace ItemCall.GivesValue

variable {k : ItemCall} {x : Item} {reply : Reply} {y : Subject}

/-- What such a call leaves is the absent value. -/
theorem eq_of_leaves (hk : k.GivesValue) (h : x.Leaves k reply) (hy : reply = .subject y) :
    y = Subject.noValue := by
  rcases h with ⟨_, _, rfl, _⟩ | ⟨_, _, _, _, rfl, _⟩ | ⟨-, -, hplaceholder⟩
  · cases hk
  · cases hk
  · have hnone : k.placeholder? = some Subject.noValue := by cases hk <;> rfl
    exact (Option.some.inj (hnone.symm.trans ((hplaceholder y).mp hy))).symm

end ItemCall.GivesValue

/-- A call that leaves its chain failed gives nothing but its placeholder. -/
theorem Chain.settle_returned {α : Type} {c : Chain} {found : Except Failure α} {a p : α}
    (hf : (c.settle found p).state.failed = true)
    (hout : (c.settle found p).outcome = .returned a) : a = p := by
  cases hc : c.failed with
  | true =>
    rw [settle_of_failed hc] at hout
    exact (Outcome.returned.inj hout).symm
  | false =>
    cases found with
    | ok b =>
      rw [settle_ok b p hc] at hf
      cases hc.symm.trans hf
    | error f =>
      rw [settle_error f p hc] at hout
      cases ho : (c.fail f).outcome with
      | returned => simpa [Effect.map, Outcome.map, ho, eq_comm] using hout
      | panicked => simp [Effect.map, Outcome.map, ho] at hout

/-- A call for a value that leaves its chain failed hands out none. -/
theorem Item.absent_of_failed {c : Chain} {x : Item} {k : ItemCall}
    {e : Effect (Chain × Item) Reply} {y : Subject} (hk : k.GivesValue) (h : x.call c k = some e)
    (hf : e.state.1.failed = true) (hout : e.outcome = .returned (.subject y)) :
    y = Subject.noValue := by
  rcases call_cases h with ⟨_, rfl, rfl, rfl⟩ | ⟨r, q, rfl, rfl, rfl⟩ | ⟨s, q, j, rfl, rfl, hj, rfl⟩
  · cases hk
  · cases hk
    refine ItemCall.GivesValue.json.eq_of_leaves (ResponseCall.leaves_placeholder r .json) ?_
    cases hc : c.failed with
    | true =>
      rw [r.call_of_failed .json hc] at hout
      exact Outcome.returned.inj hout
    | false =>
      cases hfound : (r.visit .json).found with
      | ok reply =>
        have hchain : (r.call c .json).state.1 = c := (Response.call_gives hc hfound).chain
        rw [hchain, hc] at hf
        cases hf
      | error f => exact ((Response.call_fails hc hfound).of_returned hout).symm
  · rw [j.settle_found] at hf hout
    exact hk.eq_of_leaves (Subject.leaves_placeholder hj) (Chain.settle_returned hf hout).symm

/-! ### What an absent value fails -/

/-- A call that wants a value to be there: any at all, a certain one, or one of a certain kind. -/
inductive Call.WantsValue : Call → Prop
  | null : WantsValue (.checkValue .null)
  | notNull : WantsValue (.checkValue .notNull)
  | equal (d : Json.Datum) : WantsValue (.checkValue (.equal d))
  | object : WantsValue .toObject
  | array : WantsValue .toArray
  | text : WantsValue .toText
  | number : WantsValue .toNumber
  | boolean : WantsValue .toBoolean

/-- A value passes a schema where the schema can be read and the value violates none of it; for an
absent value null is looked at. -/
theorem ValueCheck.schemaVerdict_eq_none_iff {v : OptJson} {S : Json} :
    schemaVerdict v S = none ↔ Schema.check S (v.getD .null) = .ok [] := by
  unfold schemaVerdict violationVerdict
  cases Schema.check S (v.getD .null) with
  | error fault => simp
  | ok violations => cases violations <;> simp [require]

namespace Subject

variable {k : Call} {c : Chain} {v : OptJson} {S : Json}

theorem absent_fails (hok : c.failed = false) (hk : k.WantsValue) : noValue.Fails [] k c := by
  cases hk with
  | equal d =>
    refine (fails_iff hok rfl rfl).mpr ?_
    simp only [Judgement.found, ValueCheck.verdict, compareWith]
    cases comparable d with
    | ok e => exact ⟨.value (mismatchText e none), rfl⟩
    | error f => exact ⟨f, rfl⟩
  | null | notNull | object | array | text | number | boolean =>
    exact (fails_iff hok rfl rfl).mpr ⟨_, rfl⟩

/-- A schema does not tell an absent value from null. -/
theorem absent_schema (S : Json) (c : Chain) :
    noValue.ask [] (.checkValue (.schema S)) c =
      (value (some .null)).ask [] (.checkValue (.schema S)) c := rfl

theorem passes_schema (hok : c.failed = false) :
    (value v).Passes [] (.checkValue (.schema S)) c ↔ Schema.check S (v.getD .null) = .ok [] := by
  refine (gives_iff hok rfl rfl).trans (Iff.trans ?_ ValueCheck.schemaVerdict_eq_none_iff)
  cases h : ValueCheck.schemaVerdict v S <;> simp [Judgement.found, ValueCheck.verdict, h,
    Verdict.found]

theorem fails_schema (hok : c.failed = false) :
    (value v).Fails [] (.checkValue (.schema S)) c ↔ Schema.check S (v.getD .null) ≠ .ok [] := by
  refine (fails_iff hok rfl rfl).trans
    (Iff.trans ?_ (not_congr ValueCheck.schemaVerdict_eq_none_iff))
  cases h : ValueCheck.schemaVerdict v S <;> simp [Judgement.found, ValueCheck.verdict, h,
    Verdict.found]

end Subject

namespace Session

open Subject (noValue value)

/-- CORRECT. Where a call for a document, a member or an element leaves its chain failed, what it
hands out is the absent value, and stays it under its name, whatever is done afterwards. On an OK
chain, as after a reset, an absent value fails everything that wants a value there: null and not
null, equality with any data, and being of any kind. Each fails the chain once, with a mismatch. A
schema does with it what it does with null: it passes where null violates nothing of the schema, and
fails with a mismatch elsewhere. -/
theorem absent_value_holds_nothing (s : Session) (t : Step) (q : Called) (y : Subject)
    (after : List Step) (hq : s.called? t = some q) (hk : q.call.GivesValue)
    (hout : s.HandsOut t q.id y)
    (hfailed : ∀ c, (s.step t).1.chains[q.id]? = some c → c.failed = true)
    (hafter : ∀ u ∈ after, t.name ≠ u.name) :
    ((s.step t).1.run after).1.object? t.name = some (.item q.id (.subject noValue)) ∧
      ∀ c : Chain, c.failed = false →
        (∀ k : Call, k.WantsValue → noValue.Fails [] k c) ∧
        ∀ S : Json,
          noValue.ask [] (.checkValue (.schema S)) c =
            (value (some .null)).ask [] (.checkValue (.schema S)) c ∧
          (noValue.Passes [] (.checkValue (.schema S)) c ↔ Schema.check S .null = .ok []) ∧
          (noValue.Fails [] (.checkValue (.schema S)) c ↔ Schema.check S .null ≠ .ok []) := by
  refine ⟨?_, fun c hok => ⟨fun k hk => Subject.absent_fails hok hk, fun S =>
    ⟨Subject.absent_schema S c, Subject.passes_schema hok, Subject.fails_schema hok⟩⟩⟩
  cases he : q.item.call q.chain q.call with
  | none =>
    have hending := hout.ending
    rw [step_of_no_call hq he] at hending
    cases hending
  | some e =>
    have hchain : (s.step t).1.chains[q.id]? = some e.state.1 := by
      obtain ⟨_, _, _, _, hc⟩ := called?_eq_some hq
      rw [step_of_call hq he, conclude_chains]
      exact List.getElem?_set_self (List.getElem?_eq_some_iff.mp hc).1
    have habsent : y = noValue :=
      Item.absent_of_failed hk he (hfailed _ hchain) ((handsOut_iff hq he y).mp hout)
    rw [← habsent]
    exact run_subject hout.named hafter

/-- An object without a member, which is asked for it, and the chain reset. -/
theorem absent_value_holds_nothing_of_member :
    let s := ((start (.empty "/")).run
      [.make (.subject chainName (.value (some (.object [])))) "v",
        .call "v" (.item (.subject .toObject)) "o"]).1
    let t : Step := .call "o" (.item (.subject (.member "a"))) "m"
    let q : Called := ⟨"o", 0, ⟨.recording, false, none⟩, .subject (.object []),
      .subject (.member "a")⟩
    let after : List Step := [.call chainName (.item (.chain .reset)) "_"]
    let s₂ := ((s.step t).1.run after).1
    s.called? t = some q ∧ q.call.GivesValue ∧ s.HandsOut t q.id noValue ∧
      (∀ c, (s.step t).1.chains[q.id]? = some c → c.failed = true) ∧
      (∀ u ∈ after, t.name ≠ u.name) ∧ s₂.chains[q.id]? = some ⟨.recording, false, none⟩ ∧
      s₂.object? "m" = some (.item q.id (.subject noValue)) ∧
      noValue.Fails [] (.checkValue .null) ⟨.recording, false, none⟩ := by
  intro s t q after s₂
  have hfailed : ∀ c, (s.step t).1.chains[q.id]? = some c → c.failed = true := by
    rintro c ⟨⟩
    rfl
  have hafter : ∀ u ∈ after, t.name ≠ u.name := by decide
  obtain ⟨hkept, hcalls⟩ := absent_value_holds_nothing s t q noValue after rfl (.member "a")
    ⟨rfl, rfl⟩ hfailed hafter
  exact ⟨rfl, .member "a", ⟨rfl, rfl⟩, hfailed, hafter, rfl, hkept, (hcalls _ rfl).1 _ .null⟩

/-- An absent value passes the schema of null. -/
theorem absent_value_passes_schema :
    ¬ ∀ (S : Json) (c : Chain), c.failed = false →
      noValue.Fails [] (.checkValue (.schema S)) c := by
  intro h
  let S : Json := .object [("type", .string "null")]
  let c : Chain := { reporter := .recording }
  have hverdict : ValueCheck.schemaVerdict none S = none := by decide +kernel
  have hpasses : noValue.Passes [] (.checkValue (.schema S)) c :=
    (Subject.passes_schema rfl).mpr (ValueCheck.schemaVerdict_eq_none_iff.mp hverdict)
  exact hpasses.not_fails rfl (h S c rfl)

end Session

end Attest
