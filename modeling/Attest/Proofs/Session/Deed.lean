import Attest.Proofs.Session.Called

/-!
Deeds: what an action does with an object that holds a chain.

A deed depends on the object, its chain and the action alone (`Item.deed`). The session around it
only says where things are kept: under which names, and which number the chain has. A step keeps
what the deed left and touches nothing else (`Session.step_keeps`).
-/

namespace Attest

/-- What came of an action on an item, whatever the number of its chain. -/
inductive Yield where
  | nothing
  /-- An item was looked at, or handed out; it has the same chain. -/
  | item (x : Item)
  | told (t : Told)
  | panicked (message : String)
  | refused (why : Refusal)

namespace Yield

/-- The ending of a step, where the chain has the number `id`. -/
def ending (id : Nat) : Yield → Ending
  | .nothing => .nothing
  | .item x => .object (.item id x)
  | .told t => .told t
  | .panicked m => .panicked m
  | .refused why => .refused why

/-- What comes of a call that ends so. -/
def ofOutcome : Outcome Reply → Yield
  | .returned .nothing => .nothing
  | .returned (.texts ts) => .told (.texts ts)
  | .returned (.subject s) => .item (.subject s)
  | .panicked m => .panicked m

end Yield

/-- What an action left: the chain and the item, what it handed out to be named, what came of it and
what reached the world outside. -/
structure Deed where
  chain : Chain
  item : Item
  handed : Option Item := none
  yield : Yield
  events : List Event := []

namespace Deed

/-- What a call hands out that ends so. -/
def handedBy : Outcome Reply → Option Item
  | .returned (.subject s) => some (.subject s)
  | _ => none

/-- What a call left. -/
def ofEffect (e : Effect (Chain × Item) Reply) : Deed where
  chain := e.state.1
  item := e.state.2
  handed := handedBy e.outcome
  yield := .ofOutcome e.outcome
  events := e.events

def answer (d : Deed) (id : Nat) : Answer := ⟨d.yield.ending id, some d.chain, d.events⟩

end Deed

/-- The deed of an action on an item with this chain. -/
def Item.deed (c : Chain) (x : Item) (a : Action) : Deed :=
  let still (y : Yield) : Deed := { chain := c, item := x, yield := y }
  match a with
  | .look => still (.item x)
  | .takeChain => { chain := c, item := x, handed := some .chain, yield := .item .chain }
  | .ask q =>
    match x.answer c q with
    | some t => still (.told t)
    | none => still (.refused .badStep)
  | a =>
    match Session.itemCall a with
    | .error why => still (.refused why)
    | .ok k =>
      match x.call c k with
      | some e => .ofEffect e
      | none => still (.refused .badStep)

namespace Item

variable {c : Chain} {x : Item} {a : Action} {k : ItemCall}

theorem deed_of_call {e : Effect (Chain × Item) Reply} (hk : Session.itemCall a = .ok k)
    (he : x.call c k = some e) : x.deed c a = .ofEffect e := by
  cases a with
  | look | takeChain | ask => simp [Session.itemCall] at hk
  | item | checkStatus | checkFields | messages | count | last | clear | report | sameFailure
  | sameContentType => simp [deed, hk, he]

theorem deed_of_no_call (hk : Session.itemCall a = .ok k) (he : x.call c k = none) :
    x.deed c a = { chain := c, item := x, yield := .refused .badStep } := by
  cases a with
  | look | takeChain | ask => simp [Session.itemCall] at hk
  | item | checkStatus | checkFields | messages | count | last | clear | report | sameFailure
  | sameContentType => simp [deed, hk, he]

end Item

namespace Session

variable {s : Session} {on as n : String} {id : Nat} {c : Chain} {x : Item} {d : Deed}

/-- The step `out` on the item of the name `on`, whose chain has the number `id`, keeps what a deed
left, names what it handed out and changes nothing else. -/
structure Keeping (s : Session) (on as : String) (id : Nat) (d : Deed) (out : Session × Answer) :
    Prop where
  chains : out.1.chains = s.chains.set id d.chain
  object? : ∀ n, out.1.object? n =
    if n = as ∧ d.handed.isSome then d.handed.map (.item id)
    else if n = on then some (.item id d.item)
    else s.object? n
  recording : out.1.recording = s.recording ++ d.events.filterMap Event.recorded?
  answer : out.2 = d.answer id

theorem set_same (hc : s.chains[id]? = some c) : s.chains.set id c = s.chains := by
  obtain ⟨hlt, rfl⟩ := List.getElem?_eq_some_iff.mp hc
  exact List.set_getElem_self hlt

/-- A deed that leaves everything where it is. -/
theorem keeping_still (ho : s.object? on = some (.item id x)) (hc : s.chains[id]? = some c)
    (y : Yield) (as : String) :
    s.Keeping on as id { chain := c, item := x, yield := y } (s, ⟨y.ending id, some c, []⟩) := by
  refine ⟨(set_same hc).symm, fun n => ?_, by simp, rfl⟩
  by_cases hn : n = on
  · simp [hn, ho]
  · simp [hn]

theorem keeping_conclude (s : Session) (on : String) (id : Nat) (e : Effect (Chain × Item) Reply)
    (as : String) : s.Keeping on as id (.ofEffect e) (s.conclude on id e as) := by
  obtain ⟨⟨c, x⟩, events, outcome⟩ := e
  let s' := ((s.setChain id c).bind on (.item id x)).record events
  have hs' (n : String) : s'.object? n = if n = on then some (.item id x) else s.object? n := by
    split
    next hn => rw [hn]; exact object?_bind_self _ on _
    next hn => exact object?_bind_of_ne _ hn _
  -- what is handed out gets its name last, in place of all that had it
  have hnamed (y : Subject) (n : String) : (s'.bind as (.item id (.subject y))).object? n =
      if n = as then some (.item id (.subject y)) else s'.object? n := by
    split
    next hn => rw [hn]; exact object?_bind_self s' as _
    next hn => exact object?_bind_of_ne s' hn _
  match outcome with
  | .returned .nothing | .returned (.texts _) | .panicked _ =>
    refine ⟨rfl, fun n => (hs' n).trans ?_, rfl, rfl⟩
    simp [Deed.ofEffect, Deed.handedBy]
  | .returned (.subject y) =>
    refine ⟨rfl, fun n => ?_, rfl, rfl⟩
    refine (hnamed y n).trans ?_
    simp [Deed.ofEffect, Deed.handedBy, hs']

/-- A step on an item keeps what the deed left. -/
theorem step_keeps (ho : s.object? on = some (.item id x)) (hc : s.chains[id]? = some c)
    (a : Action) (as : String) : s.Keeping on as id (x.deed c a) (s.step (.call on a as)) := by
  have hstill (y : Yield) := keeping_still ho hc y as
  have htold (t : Told) : s.Keeping on as id { chain := c, item := x, yield := .told t }
      (s.onlyTold (.item id x) t) := by
    rw [onlyTold, show s.chainOf (.item id x) = some c from hc]
    exact hstill (.told t)
  have hrefused (why : Refusal) :
      s.Keeping on as id { chain := c, item := x, yield := .refused why }
        (s.refused (.item id x) why) := by
    rw [refused, show s.chainOf (.item id x) = some c from hc]
    exact hstill (.refused why)
  simp only [step, call, ho, actItem, hc]
  cases a with
  | look => exact hstill (.item x)
  | takeChain =>
    refine ⟨(set_same hc).symm, fun n => ?_, by simp [Item.deed, bind], rfl⟩
    by_cases hn : n = as
    · simp [hn, Item.deed, object?_bind_self]
    · simp only [object?_bind_of_ne s hn, hn, Item.deed, false_and, if_false]
      split
      next hon => rw [hon, ho]
      next => rfl
  | ask q =>
    simp only [Item.deed]
    cases x.answer c q with
    | some t => exact htold t
    | none => exact hrefused .badStep
  | item | checkStatus | checkFields | messages | count | last | clear | report | sameFailure
  | sameContentType =>
    simp only [Item.deed]
    split
    next why hk =>
      rw [hk]
      exact hrefused why
    next k hk =>
      simp only [hk, callItem]
      cases x.call c k with
      | none => exact hrefused .badStep
      | some e => exact s.keeping_conclude on id e as

variable {t : Step} {q : Called}

/-! ### What is handed out -/

/-- The step hands out the subject, with the chain of this number, and names it. -/
structure HandsOut (s : Session) (t : Step) (id : Nat) (y : Subject) : Prop where
  ending : (s.step t).2.ending = .object (.item id (.subject y))
  named : (s.step t).1.object? t.name = some (.item id (.subject y))

/-- A step hands out what its call does. -/
theorem handsOut_iff {e : Effect (Chain × Item) Reply} (hq : s.called? t = some q)
    (he : q.item.call q.chain q.call = some e) (y : Subject) :
    s.HandsOut t q.id y ↔ e.outcome = .returned (.subject y) := by
  have hstep := step_of_call hq he
  have hkeeping := s.keeping_conclude q.on q.id e t.name
  have hending : (s.step t).2.ending = (Yield.ofOutcome e.outcome).ending q.id := by
    rw [hstep, hkeeping.answer]
    rfl
  constructor
  · rintro ⟨hend, -⟩
    rw [hending] at hend
    match hout : e.outcome with
    | .returned (.subject z) =>
      obtain rfl : z = y := by simpa [hout, Yield.ofOutcome, Yield.ending] using hend
      rfl
    | .returned .nothing | .returned (.texts _) | .panicked _ =>
      simp [hout, Yield.ofOutcome, Yield.ending] at hend
  · intro hout
    refine ⟨by rw [hending, hout]; rfl, ?_⟩
    rw [hstep, hkeeping.object?]
    simp [Deed.ofEffect, Deed.handedBy, hout]

/-! ### Answers whatever the numbers of chains -/

end Session

def Object.unnumbered : Object → Object
  | .item _ x => .item 0 x
  | o => o

def Ending.unnumbered : Ending → Ending
  | .object o => .object o.unnumbered
  | ending => ending

/-- The answer, without the number of the chain of what was made or handed out. -/
def Answer.unnumbered (a : Answer) : Answer := { a with ending := a.ending.unnumbered }

theorem Yield.ending_unnumbered (y : Yield) (id : Nat) : (y.ending id).unnumbered = y.ending 0 := by
  cases y <;> rfl

theorem Deed.answer_unnumbered (d : Deed) (id : Nat) : (d.answer id).unnumbered = d.answer 0 := by
  simp only [Answer.unnumbered, answer, Yield.ending_unnumbered]

namespace Session

variable {s : Session} {n : String} {id : Nat} {c : Chain} {x : Item}

/-! ### Names and chains together -/

/-- What a name stands for, with its chain. -/
def scene? (s : Session) (n : String) : Option (Chain × Item) :=
  match s.object? n with
  | some (.item id x) => (s.chains[id]?).map fun c => (c, x)
  | _ => none

theorem scene?_eq (ho : s.object? n = some (.item id x)) (hc : s.chains[id]? = some c) :
    s.scene? n = some (c, x) := by
  simp [scene?, ho, hc]

end Session

end Attest
