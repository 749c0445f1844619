import Attest.Proofs.Text.Lookup
import Attest.Session.Call

/-!
What a step of a session touches.

A step that calls an item (`Session.called?`) changes the chain of that item, the item and the name
under which it hands something out; every other step leaves the chains there are and all names but
its own alone.
-/

namespace Attest

/-- The name that a step gives to what it makes. -/
def Step.name : Step → String
  | .make _ as => as
  | .call _ _ as => as

/-- A call on an item as a step makes it: the name of the item, its chain, the item and the call. -/
structure Called where
  on : String
  id : Nat
  chain : Chain
  item : Item
  call : ItemCall

namespace Session

variable {s s' : Session} {t : Step} {q : Called} {n : String} {o : Object}

/-- The call on an item that a step comes to, if it comes to one. -/
def called? (s : Session) : Step → Option Called
  | .make _ _ => none
  | .call on a _ =>
    match s.object? on, itemCall a with
    | some (.item id x), .ok k => (s.chains[id]?).map fun c => ⟨on, id, c, x, k⟩
    | _, _ => none

/-! ### Names -/

theorem object?_bind_self (s : Session) (n : String) (o : Object) :
    (s.bind n o).object? n = some o := by
  simp [object?, bind]

theorem object?_bind_of_ne (s : Session) {m n : String} (h : m ≠ n) (o : Object) :
    (s.bind n o).object? m = s.object? m := by
  have hm : (m == n) = false := by simpa using h
  simp only [object?, bind, List.lookup_cons, hm]
  exact lookup_filter_ne h s.objects

@[simp] theorem bind_chains (s : Session) (n : String) (o : Object) :
    (s.bind n o).chains = s.chains := rfl

@[simp] theorem record_chains (s : Session) (events : List Event) :
    (s.record events).chains = s.chains := rfl

@[simp] theorem record_object? (s : Session) (events : List Event) (n : String) :
    (s.record events).object? n = s.object? n := rfl

@[simp] theorem setChain_chains (s : Session) (id : Nat) (c : Chain) :
    (s.setChain id c).chains = s.chains.set id c := rfl

@[simp] theorem setChain_object? (s : Session) (id : Nat) (c : Chain) (n : String) :
    (s.setChain id c).object? n = s.object? n := rfl

/-! ### Steps that call an item -/

theorem called?_eq_some (h : s.called? t = some q) :
    ∃ a, t = .call q.on a t.name ∧ itemCall a = .ok q.call ∧
      s.object? q.on = some (.item q.id q.item) ∧ s.chains[q.id]? = some q.chain := by
  cases t with
  | make m as => simp [called?] at h
  | call on a as =>
    simp only [called?] at h
    split at h
    next id x k hx hk =>
      obtain ⟨c, hc, rfl⟩ := Option.map_eq_some_iff.mp h
      exact ⟨a, rfl, hk, hx, hc⟩
    · simp at h

/-- The action of a call on an item is none of those that only look. -/
theorem actItem_of_itemCall {on as : String} {id : Nat} {c : Chain} {x : Item} {a : Action}
    {k : ItemCall} (hk : itemCall a = .ok k) (hc : s.chains[id]? = some c) :
    s.actItem on id x a as = s.callItem on id c x k as := by
  cases a with
  | look | takeChain | ask => simp [itemCall] at hk
  | item _ | checkStatus _ | checkFields _ => simp [actItem, hc, hk]
  | messages | count | last | clear | report | sameFailure | sameContentType =>
    simp [itemCall] at hk

theorem step_of_called (h : s.called? t = some q) :
    s.step t = s.callItem q.on q.id q.chain q.item q.call t.name := by
  obtain ⟨a, ht, hk, ho, hc⟩ := called?_eq_some h
  rw [ht]
  simp only [step, call, ho, actItem_of_itemCall hk hc, Step.name]

/-- A step that calls an item keeps what the call left. -/
theorem step_of_call {e : Effect (Chain × Item) Reply} (h : s.called? t = some q)
    (he : q.item.call q.chain q.call = some e) : s.step t = s.conclude q.on q.id e t.name := by
  simp only [step_of_called h, callItem, he]

theorem step_of_no_call (h : s.called? t = some q) (he : q.item.call q.chain q.call = none) :
    s.step t = s.refused (.item q.id q.item) .badStep := by
  simp only [step_of_called h, callItem, he]

variable {on as : String} {id : Nat} {e : Effect (Chain × Item) Reply}

theorem hand_chains (s : Session) (id : Nat) (as : String) (reply : Reply) :
    (s.hand id as reply).1.chains = s.chains := by
  cases reply <;> rfl

theorem hand_object? (s : Session) (id : Nat) {as n : String} (h : n ≠ as) (reply : Reply) :
    (s.hand id as reply).1.object? n = s.object? n := by
  cases reply with
  | nothing | texts => rfl
  | subject x => exact object?_bind_of_ne s h _

theorem conclude_chains (s : Session) (on : String) (id : Nat) (e : Effect (Chain × Item) Reply)
    (as : String) : (s.conclude on id e as).1.chains = s.chains.set id e.state.1 := by
  unfold conclude
  cases e.outcome with
  | returned reply => simp [hand_chains]
  | panicked m => simp

@[simp] theorem conclude_events (s : Session) (on : String) (id : Nat)
    (e : Effect (Chain × Item) Reply) (as : String) :
    (s.conclude on id e as).2.events = e.events := rfl

@[simp] theorem conclude_chain (s : Session) (on : String) (id : Nat)
    (e : Effect (Chain × Item) Reply) (as : String) :
    (s.conclude on id e as).2.chain = some e.state.1 := rfl

/-- A name that the call does not give anew stands for what it did before, but for the item that
was called. -/
theorem conclude_object? (s : Session) (on : String) (id : Nat) (e : Effect (Chain × Item) Reply)
    {as n : String} (h : n ≠ as) :
    (s.conclude on id e as).1.object? n =
      if n = on then some (.item id e.state.2) else s.object? n := by
  have hbind :
      (((s.setChain id e.state.1).bind on (.item id e.state.2)).record e.events).object? n =
        if n = on then some (.item id e.state.2) else s.object? n := by
    rw [record_object?]
    split
    next hn => rw [hn, object?_bind_self]
    next hn => rw [object?_bind_of_ne _ hn, setChain_object?]
  unfold conclude
  cases e.outcome with
  | returned reply => exact (hand_object? _ id h reply).trans hbind
  | panicked m => exact hbind

/-! ### Steps that call none -/

/-- The session `s'` is `s` with more chains at most. -/
structure Grown (s s' : Session) : Prop where
  chains : s.chains <+: s'.chains
  objects : s'.objects = s.objects
  recording : s'.recording = s.recording
  files : s'.files = s.files

/-- What was made left the session as it was, but for a new chain. -/
def Keeps (s : Session) (m : Made) : Prop := ∀ s' o, m.2 = .ok (s', o) → s.Grown s'

theorem keeps_made (s : Session) (o : Object) : s.Keeps (made s o) := by
  intro s' o' h
  obtain ⟨rfl, -⟩ : s = s' ∧ o = o' := by simpa [made] using h
  exact ⟨List.prefix_rfl, rfl, rfl, rfl⟩

theorem keeps_refuse (s : Session) (why : Refusal) : s.Keeps (refuse why) := by
  intro s' o h
  simp [refuse] at h

theorem keeps_withFreshChain (s : Session) (c : Chain) (x : Item) :
    s.Keeps (s.withFreshChain c x) := by
  intro s' o h
  obtain ⟨rfl, -⟩ : s.addChain c = s' ∧ Object.item s.chains.length x = o := by
    simpa [withFreshChain, made] using h
  exact ⟨List.prefix_append .., rfl, rfl, rfl⟩

theorem keeps_withChainOf (s : Session) (name : String) (x : Item) :
    s.Keeps (s.withChainOf name x) := by
  unfold withChainOf
  split
  · exact s.keeps_made _
  · exact s.keeps_refuse _

theorem keeps_loadedAs {α : Type} (s : Session) (object : α → Object)
    (loaded : List Event × Except Config.LoadError α) : s.Keeps (s.loadedAs object loaded) := by
  intro s' o h
  unfold loadedAs at h
  cases hl : loaded.2 with
  | ok a => exact s.keeps_made (object a) s' o (by simpa [hl, made] using h)
  | error e => simp [hl] at h

theorem keeps_makeSettings (s : Session) (origin : SettingsOrigin) :
    s.Keeps (s.makeSettings origin) := by
  cases origin with
  | reporter | defaults => exact s.keeps_made _
  | directory dir => exact s.keeps_loadedAs _ _
  | config name =>
    simp only [makeSettings]
    split
    · exact s.keeps_made _
    · exact s.keeps_refuse _

theorem keeps_makeResponse (s : Session) (origin : Origin) (r : Response) (preview : Option Nat) :
    s.Keeps (s.makeResponse origin r preview) := by
  cases origin with
  | reporter reporter => exact s.keeps_withFreshChain _ _
  | chain name => exact s.keeps_withChainOf _ _
  | settings name =>
    simp only [makeResponse]
    split
    · exact s.keeps_withFreshChain _ _
    · exact s.keeps_refuse _

theorem keeps_make (s : Session) (m : Make) : s.Keeps (s.make m) := by
  cases m with
  | chain | reporter | defaultConfig | contentType | failure => first
    | exact s.keeps_made _
    | exact s.keeps_withFreshChain _ _
  | subject => exact s.keeps_withChainOf _ _
  | config => exact s.keeps_loadedAs _ _
  | settings => exact s.keeps_makeSettings _
  | headers chain fields =>
    simp only [make]
    split
    · exact s.keeps_refuse _
    · exact s.keeps_withChainOf _ _
  | response origin status fields body preview =>
    simp only [make]
    split
    · exact s.keeps_refuse _
    · exact s.keeps_makeResponse _ _ _

theorem makeAs_chains (s : Session) (m : Make) (name : String) :
    s.chains <+: (s.makeAs m name).1.chains := by
  have hk := s.keeps_make m
  unfold makeAs
  split
  · exact List.prefix_rfl
  next events s' o hm => exact (hk s' o (by rw [hm])).chains

theorem makeAs_object? (s : Session) (m : Make) {name n : String} (h : n ≠ name) :
    (s.makeAs m name).1.object? n = s.object? n := by
  have hk := s.keeps_make m
  unfold makeAs
  split
  · rfl
  next events s' o hm =>
    rw [object?_bind_of_ne _ h]
    exact congrArg (List.lookup n) (hk s' o (by rw [hm])).objects

/-- What was made has its name. -/
theorem makeAs_named {m : Make} (h : (s.makeAs m n).2.ending = .object o) :
    (s.makeAs m n).1.object? n = some o ∧ ∃ s', (s.make m).2 = .ok (s', o) := by
  unfold makeAs at h ⊢
  split at h
  · cases h
  next events s' o' hm =>
    cases h
    simp [hm, object?_bind_self]

theorem actTool_chains (s : Session) (o : Object) (a : Action) :
    (s.actTool o a).1.chains = s.chains := by
  unfold actTool
  split <;> first | rfl | (split <;> rfl)

theorem actTool_object? (s : Session) (o : Object) (a : Action) (n : String) :
    (s.actTool o a).1.object? n = s.object? n := by
  unfold actTool
  split <;> first | rfl | (split <;> rfl)

/-- On an item, an action that comes to no call looks at it or names its chain. -/
theorem actItem_of_error {a : Action} {why : Refusal} (h : itemCall a = .error why) (s : Session)
    (on : String) (id : Nat) (x : Item) (as : String) :
    (s.actItem on id x a as).1 = s ∨ (s.actItem on id x a as).1 = s.bind as (.item id .chain) := by
  unfold actItem
  split
  · exact .inl rfl
  · split
    · exact .inl rfl
    · exact .inr rfl
    · split <;> exact .inl rfl
    · rw [h]
      exact .inl rfl

/-- A step that calls no item leaves the chains there are and all names but its own alone. -/
theorem step_of_not_called (h : s.called? t = none) :
    s.chains <+: (s.step t).1.chains ∧
      ∀ n, n ≠ t.name → (s.step t).1.object? n = s.object? n := by
  cases t with
  | make m as => exact ⟨s.makeAs_chains m as, fun n hn => s.makeAs_object? m hn⟩
  | call on a as =>
    simp only [step, call]
    split
    · exact ⟨List.prefix_rfl, fun _ _ => rfl⟩
    next id x ho =>
      cases hk : itemCall a with
      | ok k =>
        have hc : s.chains[id]? = none := by simpa [called?, ho, hk] using h
        have hs : s.actItem on id x a as = s.refused (.item id x) .badStep := by
          simp only [actItem, hc]
        rw [hs]
        exact ⟨List.prefix_rfl, fun _ _ => rfl⟩
      | error why =>
        rcases actItem_of_error hk s on id x as with hs | hs <;> rw [hs]
        · exact ⟨List.prefix_rfl, fun _ _ => rfl⟩
        · exact ⟨List.prefix_rfl, fun n hn => object?_bind_of_ne s hn _⟩
    next o _ _ => exact ⟨s.actTool_chains o a ▸ List.prefix_rfl, fun n _ => s.actTool_object? o a n⟩

end Session

end Attest
