import Attest.Proofs.Json.Members
import Attest.Proofs.Subject.Settle

/-!
Paths into a JSON document.

A path goes from a value to a member of an object or to an item of an array, any number of times,
and may end with a look at what is there as an object, an array, a text, a number or a boolean. To
follow it by calls, each on the subject that the one before handed out, is to look it up
(`Json.at?`): the calls end at the value found, or the first step that leads nowhere fails the chain
and the placeholder is handed on to the end (`Subject.navigation_is_lookup`).
-/

namespace Attest

/-- A step of a path: to a member of an object, or to an item of an array. -/
inductive PathStep where
  | key (key : String)
  | index (index : Nat)
deriving DecidableEq, Repr

/-- What the value at the end of a path may be taken for. -/
inductive Accessor where
  | object
  | array
  | text
  | number
  | boolean
deriving DecidableEq, Repr

namespace Json

/-- The value that a step leads to. -/
def child? : Json → PathStep → Option Json
  | .object ms, .key key => ms.lookup key
  | .array items, .index index => items[index]?
  | _, _ => none

/-- The value at the end of a path. -/
def at? (v : Json) : List PathStep → Option Json
  | [] => some v
  | st :: path => (v.child? st).bind fun w => w.at? path

/-- The value as what it is taken for, if it is that. -/
def as? : Json → Accessor → Option Subject
  | .object ms, .object => some (.object ms)
  | .array items, .array => some (.array items)
  | .string s, .text => some (.text s)
  | .bool b, .boolean => some (.boolean b)
  | v, .number => v.toDouble?.map .number
  | _, _ => none

/-- The value as it is, or as what it is taken for. -/
def found? (v : Json) : Option Accessor → Option Subject
  | none => some (.value (some v))
  | some a => v.as? a

/-- A path that leads nowhere has a first step that does. -/
theorem exists_of_at?_eq_none {v : Json} {path : List PathStep} (h : v.at? path = none) :
    ∃ pre st post w, path = pre ++ st :: post ∧ v.at? pre = some w ∧ w.child? st = none := by
  induction path generalizing v with
  | nil => cases h
  | cons st path ih =>
    cases hchild : v.child? st with
    | none => exact ⟨[], st, path, v, rfl, rfl, hchild⟩
    | some w =>
      rw [at?, hchild] at h
      obtain ⟨pre, st', post, u, rfl, hpre, hst⟩ := ih h
      refine ⟨st :: pre, st', post, u, rfl, ?_, hst⟩
      rw [at?, hchild]
      exact hpre

end Json

/-! ### Calls along a path -/

namespace PathStep

def calls : PathStep → List Call
  | .key k => [.toObject, .member k]
  | .index i => [.toArray, .element i]

/-- The failure of a step that does not lead on from a value. -/
def fault (v : Json) : PathStep → Failure
  | .key k =>
    match v with
    | .object _ => ObjectCheck.missingKey k
    | _ => wrongKind "object" (some v)
  | .index i =>
    match v with
    | .array items => ArrayCheck.outOfBounds items i
    | _ => wrongKind "array" (some v)

end PathStep

namespace Accessor

def call : Accessor → Call
  | .object => .toObject
  | .array => .toArray
  | .text => .toText
  | .number => .toNumber
  | .boolean => .toBoolean

def name : Accessor → String
  | .object => "object"
  | .array => "array"
  | .text => "string"
  | .number => "number"
  | .boolean => "boolean"

def placeholder : Accessor → Subject
  | .object => Subject.noObject
  | .array => Subject.noArray
  | .text => Subject.noText
  | .number => Subject.noNumber
  | .boolean => Subject.noBoolean

/-- What is left at the end of a path on a failed chain. -/
def remains : Option Accessor → Subject
  | none => Subject.noValue
  | some a => a.placeholder

end Accessor

/-- The failure is that of the first step of the path that leads nowhere, or the whole path can be
gone and what is there is not what it is taken for. -/
inductive FirstFault (v : Json) (path : List PathStep) (accessor : Option Accessor) :
    Failure → Prop
  | step {pre : List PathStep} {st : PathStep} {post : List PathStep} {w : Json}
      (hpath : path = pre ++ st :: post) (hpre : v.at? pre = some w) (hst : w.child? st = none) :
    FirstFault v path accessor (st.fault w)
  | accessor {a : Accessor} {w : Json} (ha : accessor = some a) (hpath : v.at? path = some w)
      (hw : w.as? a = none) : FirstFault v path accessor (wrongKind a.name (some w))

namespace Subject

/-- Calls in a row, each on the subject that the one before handed out. None: there was no such
call. -/
def follow : Subject → List Call → Act Chain (Option Subject)
  | s, [] => return some s
  | s, k :: ks =>
    match s.act k with
    | none => return none
    | some m => do
      match ← m with
      | .subject t => t.follow ks
      | _ => return none

/-- Goes along a path from a value, and takes what is there for what the accessor says. -/
def navigate (v : Json) (path : List PathStep) (accessor : Option Accessor) :
    Act Chain (Option Subject) :=
  (value (some v)).follow (path.flatMap PathStep.calls ++ (accessor.map Accessor.call).toList)

variable {s t : Subject} {k : Call} {ks : List Call} {found : Except Failure Subject} {c : Chain}

/-- Handing out a subject and following the rest of the calls from there. -/
theorem follow_cons (hj : s.judge k = some (.derive found t)) (c : Chain) :
    ∃ m : Act Chain Reply, m c = c.settle (found.map .subject) (.subject t) ∧
      s.follow (k :: ks) c = (m >>= fun reply => match reply with
        | .subject u => u.follow ks
        | _ => return none) c := by
  cases hm : s.act k with
  | none => simp [judge_eq_none hm] at hj
  | some m =>
    obtain ⟨j, hj', hrun⟩ := exists_judge hm
    obtain rfl := Option.some.inj (hj.symm.trans hj')
    exact ⟨m, hrun c, by simp only [follow, hm]⟩

theorem follow_found {u : Subject} (hj : s.judge k = some (.derive (.ok u) t))
    (hok : c.failed = false) : s.follow (k :: ks) c = u.follow ks c := by
  obtain ⟨m, hm, hfollow⟩ := follow_cons hj c
  rw [hfollow, Act.bind_run_of_pure (hm.trans (Chain.settle_ok _ _ hok))]

/-- What is handed out in any case is gone on with. -/
theorem follow_told {u : Subject} (hj : s.judge k = some (.tell (.subject u))) (c : Chain) :
    s.follow (k :: ks) c = u.follow ks c := by
  cases hm : s.act k with
  | none => simp [judge_eq_none hm] at hj
  | some m =>
    obtain ⟨j, hj', hrun⟩ := exists_judge hm
    obtain rfl := Option.some.inj (hj.symm.trans hj')
    simp only [follow, hm]
    rw [Act.bind_run_of_pure (hrun c)]

theorem follow_silent (hj : s.judge k = some (.derive found t)) (hf : c.failed = true) :
    s.follow (k :: ks) c = t.follow ks c := by
  obtain ⟨m, hm, hfollow⟩ := follow_cons hj c
  rw [hfollow, Act.bind_run_of_pure (hm.trans (Chain.settle_of_failed hf _ _))]

theorem follow_failing {q : Subject} {f : Failure} (hj : s.judge k = some (.derive (.error f) t))
    (hok : c.failed = false)
    (hq : ∀ d : Chain, d.failed = true → t.follow ks d = .pure d (some q)) :
    s.follow (k :: ks) c = (c.fail f).map fun _ => some q := by
  obtain ⟨m, hm, hfollow⟩ := follow_cons hj c
  rw [hfollow]
  refine (Act.bind_run_of_settle (g := fun _ => .ok (some q)) hm ?_ hq).trans ?_
  · intro _ u hu
    cases hu
  · exact Chain.settle_error f (some q) hok

/-! ### Following a path -/

/-- On a failed chain the placeholders are handed on to the end of the path. -/
theorem follow_path_silent (path : List PathStep) (accessor : Option Accessor) {c : Chain}
    (hf : c.failed = true) :
    noValue.follow (path.flatMap PathStep.calls ++ (accessor.map Accessor.call).toList) c =
      .pure c (some (Accessor.remains accessor)) := by
  induction path with
  | nil =>
    cases accessor with
    | none => rfl
    | some a => cases a <;> exact follow_silent rfl hf
  | cons st path ih =>
    cases st with
    | key k => exact (follow_silent rfl hf).trans ((follow_silent rfl hf).trans ih)
    | index i => exact (follow_silent rfl hf).trans ((follow_silent rfl hf).trans ih)

/-- A member is found by lookup, or its name is missing. -/
theorem judge_member (ms : Json.Members) (key : String) :
    (object ms).judge (.member key) =
      some (.derive
        (match ms.lookup key with
          | some w => .ok (.value (some w))
          | none => .error (ObjectCheck.missingKey key))
        noValue) := by
  simp only [judge, ObjectCheck.member, Json.get?_eq_lookup]
  cases ms.lookup key <;> rfl

/-- An item is found at its index, or this is out of bounds. -/
theorem judge_element (items : List Json) (index : Nat) :
    (array items).judge (.element index) =
      some (.derive
        (match items[index]? with
          | some w => .ok (.value (some w))
          | none => .error (ArrayCheck.outOfBounds items index))
        noValue) := by
  simp only [judge, ArrayCheck.element]
  cases items[index]? <;> rfl

/-- A step that leads on is two calls that find what they ask for. -/
theorem follow_step {v w : Json} {st : PathStep} (h : v.child? st = some w)
    (hok : c.failed = false) (ks : List Call) :
    (value (some v)).follow (st.calls ++ ks) c = (value (some w)).follow ks c := by
  match v, st with
  | .object ms, .key k =>
    have hj := judge_member ms k
    rw [show ms.lookup k = some w from h] at hj
    exact (follow_found rfl hok).trans (follow_found hj hok)
  | .array items, .index i =>
    have hj := judge_element items i
    rw [show items[i]? = some w from h] at hj
    exact (follow_found rfl hok).trans (follow_found hj hok)
  | .null, _ | .bool _, _ | .integer _, _ | .double _, _ | .string _, _ | .array _, .key _
  | .object _, .index _ => simp [Json.child?] at h

theorem follow_path {v w : Json} {path : List PathStep} (h : v.at? path = some w)
    (hok : c.failed = false) (ks : List Call) :
    (value (some v)).follow (path.flatMap PathStep.calls ++ ks) c =
      (value (some w)).follow ks c := by
  induction path generalizing v with
  | nil =>
    obtain rfl : v = w := Option.some.inj h
    rfl
  | cons st path ih =>
    obtain ⟨u, hchild, hrest⟩ := Option.bind_eq_some_iff.mp h
    rw [List.flatMap_cons, List.append_assoc, follow_step hchild hok]
    exact ih hrest

/-- A step that leads nowhere fails the chain, and the calls after it are silent. -/
theorem follow_step_failing {v : Json} {st : PathStep} {q : Subject} (h : v.child? st = none)
    (hok : c.failed = false)
    (hq : ∀ d : Chain, d.failed = true → noValue.follow ks d = .pure d (some q)) :
    (value (some v)).follow (st.calls ++ ks) c = (c.fail (st.fault v)).map fun _ => some q := by
  -- after the wrong kind the second call of the step meets a placeholder on a failed chain
  have hmember (k : String) (d : Chain) (hd : d.failed = true) :
      noObject.follow (.member k :: ks) d = .pure d (some q) :=
    (follow_silent rfl hd).trans (hq d hd)
  have helement (i : Nat) (d : Chain) (hd : d.failed = true) :
      noArray.follow (.element i :: ks) d = .pure d (some q) :=
    (follow_silent rfl hd).trans (hq d hd)
  match v, st with
  | .object ms, .key k =>
    have hj := judge_member ms k
    rw [show ms.lookup k = none from h] at hj
    exact (follow_found rfl hok).trans (follow_failing hj hok hq)
  | .array items, .index i =>
    have hj := judge_element items i
    rw [show items[i]? = none from h] at hj
    exact (follow_found rfl hok).trans (follow_failing hj hok hq)
  | .null, .key k | .bool _, .key k | .integer _, .key k | .double _, .key k | .string _, .key k
  | .array _, .key k => exact follow_failing rfl hok (hmember k)
  | .null, .index i | .bool _, .index i | .integer _, .index i | .double _, .index i
  | .string _, .index i | .object _, .index i => exact follow_failing rfl hok (helement i)

/-- An accessor finds what the value is, or that it is something else. -/
theorem judge_accessor (v : Json) (a : Accessor) :
    (value (some v)).judge a.call =
      some (.derive
        (match v.as? a with
          | some x => .ok x
          | none => .error (wrongKind a.name (some v)))
        a.placeholder) := by
  cases a <;> cases v <;> rfl

theorem follow_accessor {v : Json} {accessor : Option Accessor} {x : Subject}
    (h : v.found? accessor = some x) (hok : c.failed = false) :
    (value (some v)).follow (accessor.map Accessor.call).toList c = .pure c (some x) := by
  cases accessor with
  | none =>
    obtain rfl : value (some v) = x := Option.some.inj h
    rfl
  | some a =>
    have hj := judge_accessor v a
    rw [show v.as? a = some x from h] at hj
    exact follow_found hj hok

/-- CORRECT: to follow a path from a value on an OK chain is to look it up. If the path leads to a
value, which is what it is taken for, that is what is handed out in the end, and nothing else
happens. If not, the fault of the first step that leads nowhere, or of the accessor, is the one
failure, a mismatch, and unless its report stops the calls the placeholder is handed out. One of the
two is the case. -/
theorem navigation_is_lookup (v : Json) (path : List PathStep) (accessor : Option Accessor)
    (c : Chain) (hok : c.failed = false) :
    (∀ w x, v.at? path = some w → w.found? accessor = some x →
      navigate v path accessor c = .pure c (some x)) ∧
    (∀ f, FirstFault v path accessor f →
      f.kind = .valueMismatch ∧
      navigate v path accessor c =
        ⟨{ c with failed := true, kind := some .valueMismatch }, c.reporter.events f.text,
          (c.reporter.outcome f.text).map fun _ => some (Accessor.remains accessor)⟩) ∧
    ((∃ w x, v.at? path = some w ∧ w.found? accessor = some x) ∨
      ∃ f, FirstFault v path accessor f) := by
  refine ⟨?_, ?_, ?_⟩
  · intro w x hpath hfound
    exact (follow_path hpath hok _).trans (follow_accessor hfound hok)
  · intro f hfault
    have hfails : f.kind = .valueMismatch ∧ navigate v path accessor c =
        (c.fail f).map fun _ => some (Accessor.remains accessor) := by
      cases hfault with
      | @step pre st post w hpath hpre hst =>
        refine ⟨?_, ?_⟩
        · cases st <;> cases w <;> rfl
        · rw [navigate, hpath, List.flatMap_append, List.append_assoc, follow_path hpre hok,
            List.flatMap_cons, List.append_assoc]
          exact follow_step_failing hst hok fun d hd => follow_path_silent post accessor hd
      | @accessor a w ha hpath hw =>
        refine ⟨rfl, ?_⟩
        have hj := judge_accessor w a
        rw [hw] at hj
        rw [navigate, follow_path hpath hok, ha]
        exact follow_failing hj hok fun d _ => rfl
    obtain ⟨hkind, hnavigate⟩ := hfails
    refine ⟨hkind, ?_⟩
    rw [hnavigate, Chain.fail, if_neg (by simp [hok]), hkind]
    rfl
  · cases hpath : v.at? path with
    | none =>
      obtain ⟨pre, st, post, w, hsplit, hpre, hst⟩ := Json.exists_of_at?_eq_none hpath
      exact .inr ⟨_, .step hsplit hpre hst⟩
    | some w =>
      cases hfound : w.found? accessor with
      | some x => exact .inl ⟨w, x, rfl, hfound⟩
      | none =>
        cases ha : accessor with
        | none => simp [ha, Json.found?] at hfound
        | some a =>
          rw [ha] at hfound
          exact .inr ⟨_, .accessor rfl hpath hfound⟩

/-- A number and a text, under a key. -/
def pair : Json := .object [("items", .array [.integer 7, .string "seven"])]

/-- Both parts of the lookup: to the text, and past it. -/
theorem navigation_is_lookup_in_pair :
    let c : Chain := { reporter := .recording }
    let past : List PathStep := [.key "items", .index 2, .key "name"]
    c.failed = false ∧
      navigate pair [.key "items", .index 1] (some .text) c = .pure c (some (.text "seven")) ∧
      FirstFault pair past (some .number)
        (.value "array index 2 out of bounds (length 2)") ∧
      navigate pair past (some .number) c =
        ⟨⟨.recording, true, some .valueMismatch⟩,
          [.recorded "value mismatch: array index 2 out of bounds (length 2)"],
          .returned (some noNumber)⟩ := by
  intro c past
  have hfault : FirstFault pair past (some .number)
      (.value "array index 2 out of bounds (length 2)") :=
    @FirstFault.step pair past (some .number) [.key "items"] (.index 2) [.key "name"]
      (.array [.integer 7, .string "seven"]) rfl rfl rfl
  obtain ⟨hfound, -⟩ :=
    navigation_is_lookup pair [.key "items", .index 1] (some .text) c rfl
  obtain ⟨-, hfails, -⟩ := navigation_is_lookup pair past (some .number) c rfl
  exact ⟨rfl, hfound _ _ rfl rfl, hfault, (hfails _ hfault).2⟩

/-- Where a report panics, nothing is handed out at the end of a path. -/
theorem navigation_lost_to_panic :
    ¬ ∀ (v : Json) (path : List PathStep) (accessor : Option Accessor) (c : Chain),
      c.failed = false → ∃ x, (navigate v path accessor c).outcome = .returned (some x) := by
  intro h
  obtain ⟨x, hx⟩ := h .null [] (some .object) { reporter := .panic } rfl
  cases hx

end Subject

end Attest
