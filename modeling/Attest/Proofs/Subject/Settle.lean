import Attest.Proofs.Chain.Settle
import Attest.Subject

/-!
What the calls on subjects come to.

A call on a subject can be judged without looking at any chain: it is a check with a verdict, or it
derives another subject, or it only tells something. The act of the call does what the judgement
says, settled once (`Subject.act_run`), although the act of a comparison or of a schema can fail its
chain at two points.
-/

namespace Attest

variable {c : Chain}

/-! ### The acts of checks -/

/-- Comparing fails for data without a JSON value or for the verdict on its value, not for both. -/
theorem Act.compare_run (d : Json.Datum) (judge : Json → Verdict) (c : Chain) :
    Act.compare d judge c = Act.check (compareWith d judge) c := by
  have hcanonical : Act.canonical d c = c.settle ((comparable d).map some) none :=
    Act.obtain_run _ _ _
  have hsettle : Act.compare d judge c = c.settle (((comparable d).map some).bind fun v? =>
      v?.elim (.ok ()) fun v => (judge v).found ()) () := by
    refine Act.bind_run_of_settle hcanonical ?_ (fun _ _ => rfl)
    rintro hok (_ | v) _
    · exact (Chain.settle_ok () () hok).symm
    · exact Act.check_run _ _
  rw [hsettle, Act.check_run, compareWith]
  cases comparable d <;> rfl

/-- Where an act does on an OK chain what a verdict asks for, and nothing on a failed one, it checks
the verdict. -/
theorem Act.unless_run {m : Act Chain Unit} {v : Verdict} {c : Chain}
    (h : c.failed = false → m c = c.settle (v.found ()) ()) :
    (Act.isFailed >>= fun failed => if failed = true then pure () else m : Act Chain Unit) c =
      Act.check v c := by
  rw [Act.isFailed_bind, Act.check_run]
  cases hf : c.failed with
  | true => rw [Chain.settle_of_failed hf]; rfl
  | false => exact h hf

theorem TextCheck.act_run (text : String) (k : TextCheck) (c : Chain) :
    k.act text c = Act.check (k.verdict text) c := by
  cases k with
  | matching pattern =>
    refine Act.unless_run fun hok => ?_
    simp only [TextCheck.verdict, TextCheck.matchVerdict]
    cases Pattern.compile pattern with
    | ok m => exact Act.check_run _ _
    | error e =>
      rw [Verdict.found, Chain.settle_error _ _ hok, Effect.map_unit]
      rfl
  | _ => rfl

theorem ValueCheck.act_run (v : OptJson) (k : ValueCheck) (c : Chain) :
    k.act v c = Act.check (k.verdict v) c := by
  cases k with
  | equal expected => exact Act.compare_run ..
  | notEqual unexpected => exact Act.compare_run ..
  | schema s =>
    refine Act.unless_run fun hok => ?_
    simp only [ValueCheck.verdict, ValueCheck.schemaVerdict]
    cases Schema.check s (v.getD .null) with
    | ok violations =>
      dsimp only
      cases ValueCheck.violationVerdict violations with
      | none => rw [Verdict.found, Chain.settle_ok _ _ hok]; rfl
      | some f => rw [Verdict.found, Chain.settle_error _ _ hok, Effect.map_unit]; rfl
    | error fault =>
      rw [Verdict.found, Chain.settle_error _ _ hok, Effect.map_unit]
      rfl
  | null | notNull => rfl

theorem ObjectCheck.act_run (ms : Json.Members) (k : ObjectCheck) (c : Chain) :
    k.act ms c = Act.check (k.verdict ms) c := by
  cases k with
  | equal expected => exact Act.compare_run ..
  | empty | notEmpty | containsKey | notContainsKey => rfl

theorem ArrayCheck.act_run (items : List Json) (k : ArrayCheck) (c : Chain) :
    k.act items c = Act.check (k.verdict items) c := by
  cases k with
  | contains | notContains | equal => exact Act.compare_run ..
  | notEmpty | length => rfl

/-! ### Judgements -/

/-- What a call comes to when its chain is OK. -/
inductive Judgement where
  /-- It asserts something. -/
  | check (verdict : Verdict)
  /-- It hands out another subject, or `placeholder` where there is none. -/
  | derive (found : Except Failure Subject) (placeholder : Subject)
  /-- It hands out something in any case. -/
  | tell (reply : Reply)

/-- Lets the chain decide. -/
def Judgement.settle (c : Chain) : Judgement → Effect Chain Reply
  | .check verdict => c.settle (verdict.found .nothing) .nothing
  | .derive found placeholder => c.settle (found.map .subject) (.subject placeholder)
  | .tell reply => .pure c reply

namespace Judgement

/-- What a call finds on an OK chain. -/
def found : Judgement → Except Failure Reply
  | .check verdict => verdict.found .nothing
  | .derive found _ => found.map .subject
  | .tell reply => .ok reply

/-- What a call hands out on a failed chain. -/
def placeholder : Judgement → Reply
  | .check _ => .nothing
  | .derive _ p => .subject p
  | .tell reply => reply

/-- Whatever kind of call it is, the chain decides in one way. -/
theorem settle_found (j : Judgement) (c : Chain) : j.settle c = c.settle j.found j.placeholder := by
  cases j with
  | check verdict => rfl
  | derive found placeholder => rfl
  | tell reply => exact (ite_self _).symm

end Judgement

namespace Subject

/-- Judges a call. None: the subject does not have it. -/
def judge : Subject → Call → Option Judgement
  | .headers h, .checkHeaders c => some (.check (c.verdict h))
  | .headers h, .headerValue name =>
    some (.derive ((HeadersCheck.firstValue h name).map .text) noText)
  | .headers h, .headerValues name => some (.tell (.texts (h.texts name)))
  | .text s, .checkText c => some (.check (c.verdict s))
  | .body bytes limit, .checkBody c => some (.check (c.verdict bytes limit))
  | .body bytes _, .limitPreview limit => some (.tell (.subject (.body bytes limit)))
  | .value v, .checkValue c => some (.check (c.verdict v))
  | .value v, .toObject =>
    some (.derive ((typedPart "object" Json.members? v).map .object) noObject)
  | .value v, .toArray => some (.derive ((typedPart "array" Json.items? v).map .array) noArray)
  | .value v, .toText => some (.derive ((typedPart "string" Json.string? v).map .text) noText)
  | .value v, .toNumber =>
    some (.derive ((typedPart "number" Json.toDouble? v).map .number) noNumber)
  | .value v, .toBoolean =>
    some (.derive ((typedPart "boolean" Json.bool? v).map .boolean) noBoolean)
  | .object ms, .checkObject c => some (.check (c.verdict ms))
  | .object ms, .keys => some (.tell (.subject (.array ((Json.keys ms).map .string))))
  | .object ms, .member key =>
    some (.derive ((ObjectCheck.member ms key).map fun v => .value (some v)) noValue)
  | .array items, .checkArray c => some (.check (c.verdict items))
  | .array items, .element index =>
    some (.derive ((ArrayCheck.element items index).map fun v => .value (some v)) noValue)
  | .number x, .checkNumber c => some (.check (c.verdict x))
  | .boolean b, .checkBoolean expected => some (.check (booleanVerdict b expected))
  | _, _ => none

theorem asserting_run {m : Act Chain Unit} {v : Verdict} (h : m c = Act.check v c) :
    asserting m c = (Judgement.check v).settle c := by
  have hmap : asserting m c = (m c).map fun _ => .nothing := Act.bind_pure_run ..
  rw [hmap, h, Act.check_run, Chain.settle_map, Judgement.settle]
  cases v <;> rfl

theorem handing_run {m : Act Chain Subject} {found : Except Failure Subject}
    {placeholder : Subject} (h : m c = c.settle found placeholder) :
    handing m c = (Judgement.derive found placeholder).settle c := by
  have hmap : handing m c = (m c).map .subject := Act.bind_pure_run ..
  rw [hmap, h, Chain.settle_map, Judgement.settle]

theorem part_run {α : Type} (wanted : String) (pick : Json → Option α) (wrap : α → Subject)
    (placeholder : Subject) (v : OptJson) (c : Chain) :
    part wanted pick wrap placeholder v c =
      c.settle ((typedPart wanted pick v).map wrap) placeholder := by
  have htyped : Act.typed wanted pick v c = c.settle ((typedPart wanted pick v).map some) none :=
    Act.obtain_run _ _ _
  have hsettle : part wanted pick wrap placeholder v c =
      c.settle (((typedPart wanted pick v).map some).bind fun a? =>
        .ok (a?.elim placeholder wrap)) placeholder := by
    refine Act.bind_run_of_settle htyped ?_ (fun _ _ => rfl)
    rintro hok (_ | a) _ <;> exact (Chain.settle_ok _ _ hok).symm
  rw [hsettle]
  cases typedPart wanted pick v <;> rfl

/-- The act of a call does what its judgement says, and the subjects that do not have the call are
those that cannot judge it. -/
theorem act_run (s : Subject) (k : Call) (c : Chain) :
    (s.act k).map (fun m => m c) = (s.judge k).map fun j => j.settle c := by
  cases s with
  | headers h =>
    cases k with
    | checkHeaders q => exact congrArg some (asserting_run rfl)
    | headerValue name => exact congrArg some (handing_run (Act.obtain_run ..))
    | _ => rfl
  | text s =>
    cases k with
    | checkText q => exact congrArg some (asserting_run (q.act_run s c))
    | _ => rfl
  | body bytes limit =>
    cases k with
    | checkBody q => exact congrArg some (asserting_run rfl)
    | _ => rfl
  | value v =>
    cases k with
    | checkValue q => exact congrArg some (asserting_run (q.act_run v c))
    | toObject | toArray | toText | toNumber | toBoolean =>
      exact congrArg some (handing_run (part_run ..))
    | _ => rfl
  | object ms =>
    cases k with
    | checkObject q => exact congrArg some (asserting_run (q.act_run ms c))
    | member key => exact congrArg some (handing_run (Act.obtain_run ..))
    | _ => rfl
  | array items =>
    cases k with
    | checkArray q => exact congrArg some (asserting_run (q.act_run items c))
    | element index => exact congrArg some (handing_run (Act.obtain_run ..))
    | _ => rfl
  | number x =>
    cases k with
    | checkNumber q => exact congrArg some (asserting_run rfl)
    | _ => rfl
  | boolean b =>
    cases k with
    | checkBoolean expected => exact congrArg some (asserting_run rfl)
    | _ => rfl

theorem exists_judge {s : Subject} {k : Call} {m : Act Chain Reply} (h : s.act k = some m) :
    ∃ j, s.judge k = some j ∧ ∀ c, m c = j.settle c := by
  have hrun (c : Chain) : some (m c) = (s.judge k).map fun j => j.settle c := by
    rw [← act_run, h, Option.map_some]
  cases hj : s.judge k with
  | none => simpa [hj] using hrun { reporter := .recording }
  | some j => exact ⟨j, rfl, fun c => by simpa [hj] using hrun c⟩

theorem judge_eq_none {s : Subject} {k : Call} (h : s.act k = none) : s.judge k = none := by
  simpa [h] using (s.act_run k { reporter := .recording }).symm

end Subject

/-! ### Kinds of failures -/

/-- The kind of all failures of subjects. -/
abbrev Mismatched (kind : FailureKind) : Prop := kind = .valueMismatch

section

variable {α : Type} (a : α)

theorem failsOnly_compareWith {judge : Json → Verdict} (d : Json.Datum)
    (h : ∀ v, FailsOnly Mismatched (Verdict.found a (judge v))) :
    FailsOnly Mismatched (Verdict.found a (compareWith d judge)) := by
  unfold compareWith comparable
  cases d.toJson with
  | ok v => exact h v
  | error e => exact failsOnly_error (by rfl)

theorem TextCheck.failsOnly (text : String) (k : TextCheck) :
    FailsOnly Mismatched (Verdict.found a (k.verdict text)) := by
  cases k with
  | matching pattern =>
    simp only [verdict, matchVerdict]
    cases Pattern.compile pattern with
    | ok m => exact failsOnly_require (by rfl) a
    | error e => exact failsOnly_error (by rfl)
  | _ => exact failsOnly_require (by rfl) a

theorem ValueCheck.failsOnly (v : OptJson) (k : ValueCheck) :
    FailsOnly Mismatched (Verdict.found a (k.verdict v)) := by
  cases k with
  | null | notNull => exact failsOnly_require (by rfl) a
  | equal d | notEqual d => exact failsOnly_compareWith a d fun _ => failsOnly_require (by rfl) a
  | schema s =>
    simp only [verdict, schemaVerdict]
    cases Schema.check s (v.getD .null) with
    | ok violations => exact failsOnly_require (by rfl) a
    | error fault => exact failsOnly_error (by rfl)

theorem ObjectCheck.failsOnly (ms : Json.Members) (k : ObjectCheck) :
    FailsOnly Mismatched (Verdict.found a (k.verdict ms)) := by
  cases k with
  | equal d => exact failsOnly_compareWith a d fun _ => failsOnly_require (by rfl) a
  | _ => exact failsOnly_require (by rfl) a

theorem ArrayCheck.failsOnly (items : List Json) (k : ArrayCheck) :
    FailsOnly Mismatched (Verdict.found a (k.verdict items)) := by
  cases k with
  | contains d | notContains d | equal d =>
    exact failsOnly_compareWith a d fun _ => failsOnly_require (by rfl) a
  | _ => exact failsOnly_require (by rfl) a

end

theorem failsOnly_typedPart {α : Type} (wanted : String) (pick : Json → Option α) (v : OptJson) :
    FailsOnly Mismatched (typedPart wanted pick v) := by
  unfold typedPart
  cases v.bind pick with
  | some a => exact failsOnly_ok a
  | none => exact failsOnly_error (by rfl)

theorem ObjectCheck.failsOnly_member (ms : Json.Members) (key : String) :
    FailsOnly Mismatched (member ms key) := by
  unfold member
  cases Json.get? key ms with
  | some v => exact failsOnly_ok v
  | none => exact failsOnly_error (by rfl)

theorem ArrayCheck.failsOnly_element (items : List Json) (index : Nat) :
    FailsOnly Mismatched (element items index) := by
  unfold element
  cases items[index]? with
  | some v => exact failsOnly_ok v
  | none => exact failsOnly_error (by rfl)

theorem HeadersCheck.failsOnly_firstValue (h : Headers) (name : String) :
    FailsOnly Mismatched (firstValue h name) := by
  unfold firstValue
  cases h.first? name with
  | some s => exact failsOnly_ok s
  | none => exact failsOnly_error (by rfl)

end Attest
