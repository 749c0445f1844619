import Mathlib.Data.List.Induction
import Attest.Proofs.Chain.Request
import Attest.Proofs.Session.Deed

/-!
Responses under the same settings do not touch each other.

Each response that is made under settings has a chain of its own, which it shares with all that is
taken from it. So when the steps of many responses are interleaved in any way, each response finds
what it would find if its own steps were all there are. The reporter, which they share, gets the
messages of all of them (`Session.responses_isolated`).

Whose a step is, is told by the names of the session: each name has at most one owner.
-/

namespace Attest

variable {ι : Type}

/-! ### Interleavings -/

/-- The list is an interleaving of its parts: each of its members can be given to one of them, such
that each part has just what was given to it, in the same order. -/
def Interleaves [DecidableEq ι] {α : Type} (l : List α) (parts : ι → List α) : Prop :=
  ∃ given : List (ι × α), given.map Prod.snd = l ∧
    ∀ i, (given.filter fun p => p.1 = i).map Prod.snd = parts i

/-- More for one of the parts. -/
theorem Interleaves.concat [DecidableEq ι] {α : Type} {l more : List α} {parts parts' : ι → List α}
    {i : ι} (h : Interleaves l parts) (hi : parts' i = parts i ++ more)
    (hother : ∀ j, j ≠ i → parts' j = parts j) : Interleaves (l ++ more) parts' := by
  obtain ⟨given, rfl, hparts⟩ := h
  refine ⟨given ++ more.map fun a => (i, a), ?_, fun j => ?_⟩
  · simp [List.map_append, Function.comp_def]
  · rw [List.filter_append, List.map_append, hparts]
    by_cases hj : j = i
    · subst hj
      rw [hi]
      simp [List.filter_map, Function.comp_def]
    · rw [hother j hj]
      simp [List.filter_map, Function.comp_def, Ne.symm hj]

/-! ### Steps of an owner -/

/-- Who gets a response by the step. -/
def Step.maker? (owner : String → Option ι) : Step → Option ι
  | .make _ as => owner as
  | .call _ _ _ => none

/-- The steps of one owner, in order. -/
def ownSteps [DecidableEq ι] (owner : String → Option ι) (i : ι) (steps : List Step) : List Step :=
  steps.filter fun t => owner t.name = some i

/-- The step is one of the owner's: it makes a response under the settings, or acts on what the
owner has. -/
inductive Step.Belongs (s : Session) (e : Settings) (owner : String → Option ι) (i : ι) :
    Step → Prop
  | make {shop as : String} {status : Int} {fields : List (List UInt8 × List UInt8)}
      {body : Option (List Chunk)} {preview : Option Nat}
      (hshop : s.object? shop = some (.settings e)) (hfree : owner shop = none)
      (has : owner as = some i) :
      Belongs s e owner i (.make (.response (.settings shop) status fields body preview) as)
  | act {on as : String} {a : Action} (hon : owner on = some i) (has : owner as = some i) :
      Belongs s e owner i (.call on a as)

theorem Step.Belongs.name {s : Session} {e : Settings} {owner : String → Option ι} {i : ι}
    {t : Step} (h : t.Belongs s e owner i) : owner t.name = some i := by
  cases h with
  | make _ _ has => exact has
  | act _ has => exact has

namespace Session

variable {s S : Session} {e : Settings} {owner : String → Option ι} {i : ι} {t : Step}
  {on as n : String}

/-- Making a response under settings gives it a new chain, or is refused wherever it is done. -/
theorem step_response (e : Settings) (shop : String) (status : Int)
    (fields : List (List UInt8 × List UInt8)) (body : Option (List Chunk)) (preview : Option Nat)
    (as : String) :
    (∃ why, ∀ s : Session, s.object? shop = some (.settings e) →
      s.step (.make (.response (.settings shop) status fields body preview) as) =
        (s, ⟨.refused why, none, []⟩)) ∨
    ∃ x : Item, ∀ s : Session, s.object? shop = some (.settings e) →
      s.step (.make (.response (.settings shop) status fields body preview) as) =
        ((s.addChain e.chain).bind as (.item s.chains.length x),
          ⟨.object (.item s.chains.length x), some e.chain, []⟩) := by
  cases hr : received status fields body with
  | error why =>
    refine .inl ⟨why, fun s _ => ?_⟩
    simp only [step, makeAs, make, hr, refuse]
  | ok r =>
    refine .inr ⟨.response { e.adopt r with previewLimit := preview.getD (e.adopt r).previewLimit },
      fun s hs => ?_⟩
    simp only [step, makeAs, make, hr, makeResponse, hs, withFreshChain, made]
    simp [chainOf, addChain]

theorem step_of_nothing (h : s.object? on = none) (a : Action) (as : String) :
    s.step (.call on a as) = (s, ⟨.refused .badStep, none, []⟩) := by
  simp only [step, call, h]

/-! ### One step among others -/

/-- The session `S` has come from `s` by steps of many owners, and each `T i` by those of one. What
an owner has is the same in both: its items, and their chain, whose number in either is told by
`home`. -/
structure Housed (owner : String → Option ι) (s S : Session) (T : ι → Session)
    (home : ι → Option (Nat × Nat)) : Prop where
  free : ∀ n, owner n = none → S.object? n = s.object? n ∧ ∀ i, (T i).object? n = s.object? n
  items : ∀ n i, owner n = some i → (S.object? n = none ∧ (T i).object? n = none) ∨
    ∃ a b x, home i = some (a, b) ∧ S.object? n = some (.item a x) ∧
      (T i).object? n = some (.item b x)
  chains : ∀ i a b, home i = some (a, b) →
    ∃ c, S.chains[a]? = some c ∧ (T i).chains[b]? = some c
  apart : ∀ i j a b b', home i = some (a, b) → home j = some (a, b') → i = j

/-- A step of an owner among the steps of others gives what it gives among its own, and tells the
chain that all have that the owner has. -/
structure Undisturbed (S T : Session) (t : Step) (home : Option (Nat × Nat)) : Prop where
  answer : (S.step t).2.unnumbered = (T.step t).2.unnumbered
  chain : ∀ c, (S.step t).2.chain = some c →
    ∃ a b, home = some (a, b) ∧ (S.step t).1.chains[a]? = some c
  recording :
    (S.step t).1.recording = S.recording ++ Reporter.recording.received (S.step t).2.events

variable {T T' : ι → Session} {home : ι → Option (Nat × Nat)}

theorem eq_of_still (hT : T' i = T i) (hT' : ∀ j, j ≠ i → T' j = T j) : T' = T := by
  funext j
  by_cases hj : j = i
  · rw [hj, hT]
  · exact hT' j hj

/-- An action on what the owner does not have is refused and changes nothing. -/
theorem undisturbed_nothing {T : Session} (h : S.object? on = none) (h' : T.object? on = none)
    (a : Action) (as : String) (home : Option (Nat × Nat)) :
    S.Undisturbed T (.call on a as) home := by
  have hstep := step_of_nothing h a as
  have hstep' := step_of_nothing h' a as
  refine ⟨by rw [hstep, hstep'], ?_, ?_⟩
  · rw [hstep]
    simp
  · rw [hstep]
    simp

theorem Keeping.object?_of_ne {id : Nat} {d : Deed} {out : Session × Answer}
    (h : s.Keeping on as id d out) (has : n ≠ as) (hon : n ≠ on) :
    out.1.object? n = s.object? n := by
  rw [h.object?, if_neg (by simp [has]), if_neg hon]

/-- Two sessions in which an action on the same item does the same. -/
theorem undisturbed_keeping {T : Session} {a : Action} {id id' : Nat} {d : Deed}
    (h : S.Keeping on as id d (S.step (.call on a as)))
    (h' : T.Keeping on as id' d (T.step (.call on a as))) (hlt : id < S.chains.length) :
    S.Undisturbed T (.call on a as) (some (id, id')) := by
  refine ⟨?_, fun c hc => ⟨id, id', rfl, ?_⟩, ?_⟩
  · rw [h.answer, h'.answer, Deed.answer_unnumbered, Deed.answer_unnumbered]
  · rw [h.answer] at hc
    rw [h.chains, List.getElem?_set_self hlt]
    exact hc
  · rw [h.recording, h.answer, Reporter.received_recording]
    rfl

theorem Housed.act (h : Housed owner s S T home) {a : Action} (hon : owner on = some i)
    (has : owner as = some i) (hT : T' i = ((T i).step (.call on a as)).1)
    (hT' : ∀ j, j ≠ i → T' j = T j) :
    Housed owner s (S.step (.call on a as)).1 T' home ∧
      S.Undisturbed (T i) (.call on a as) (home i) := by
  rcases h.items on i hon with ⟨hS, hTi⟩ | ⟨id, id', x, hhome, hS, hTi⟩
  · refine ⟨?_, undisturbed_nothing hS hTi a as _⟩
    rw [step_of_nothing hTi] at hT
    rw [step_of_nothing hS, eq_of_still hT hT']
    exact h
  · obtain ⟨c, hc, hc'⟩ := h.chains i id id' hhome
    have hkeeps := step_keeps hS hc a as
    have hkeeps' := step_keeps hTi hc' a as
    have hlt := (List.getElem?_eq_some_iff.mp hc).1
    have hlt' := (List.getElem?_eq_some_iff.mp hc').1
    generalize x.deed c a = d at hkeeps hkeeps'
    refine ⟨⟨?_, ?_, ?_, h.apart⟩, hhome ▸ undisturbed_keeping hkeeps hkeeps' hlt⟩
    · intro n hn
      have hnas : n ≠ as := by rintro rfl; simp [hn] at has
      have hnon : n ≠ on := by rintro rfl; simp [hn] at hon
      obtain ⟨hfree, hfree'⟩ := h.free n hn
      refine ⟨(hkeeps.object?_of_ne hnas hnon).trans hfree, fun j => ?_⟩
      by_cases hj : j = i
      · rw [hj, hT]
        exact (hkeeps'.object?_of_ne hnas hnon).trans (hfree' i)
      · rw [hT' j hj]
        exact hfree' j
    · intro n j hn
      by_cases hj : j = i
      · subst hj
        rw [hT, hkeeps.object?, hkeeps'.object?]
        split
        next hgiven =>
          obtain ⟨z, hz⟩ := Option.isSome_iff_exists.mp hgiven.2
          exact .inr ⟨id, id', z, hhome, by rw [hz]; rfl, by rw [hz]; rfl⟩
        next =>
          split
          next => exact .inr ⟨id, id', d.item, hhome, rfl, rfl⟩
          next => exact h.items n j hn
      · have hnas : n ≠ as := by rintro rfl; exact hj (Option.some.inj (hn.symm.trans has))
        have hnon : n ≠ on := by rintro rfl; exact hj (Option.some.inj (hn.symm.trans hon))
        rw [hT' j hj, hkeeps.object?_of_ne hnas hnon]
        exact h.items n j hn
    · intro j b b' hj
      by_cases hij : j = i
      · subst hij
        obtain ⟨rfl, rfl⟩ : id = b ∧ id' = b' := by simpa using hhome.symm.trans hj
        refine ⟨d.chain, ?_, ?_⟩
        · rw [hkeeps.chains, List.getElem?_set_self hlt]
        · rw [hT, hkeeps'.chains, List.getElem?_set_self hlt']
      · have hne : id ≠ b := by rintro rfl; exact hij (h.apart _ _ _ _ _ hj hhome)
        rw [hT' j hij, hkeeps.chains, List.getElem?_set_ne hne]
        exact h.chains j b b' hj

theorem Housed.home_lt (h : Housed owner s S T home) {a b : Nat} (hi : home i = some (a, b)) :
    a < S.chains.length := by
  obtain ⟨c, hc, -⟩ := h.chains i a b hi
  exact (List.getElem?_eq_some_iff.mp hc).1

open Classical in
/-- An owner without items gets one with a new chain. -/
theorem Housed.add (h : Housed owner s S T home) (has : owner as = some i) (hnew : home i = none)
    (c : Chain) (x : Item)
    (hT : T' i = ((T i).addChain c).bind as (.item (T i).chains.length x))
    (hT' : ∀ j, j ≠ i → T' j = T j) :
    Housed owner s ((S.addChain c).bind as (.item S.chains.length x)) T'
      (Function.update home i (some (S.chains.length, (T i).chains.length))) := by
  have hlast (l : List Chain) : (l ++ [c])[l.length]? = some c := by simp
  generalize hhome' : Function.update home i _ = home'
  have hself : home' i = some (S.chains.length, (T i).chains.length) := by
    rw [← hhome', Function.update_self]
  have hother (j) (hj : j ≠ i) : home' j = home j := by
    rw [← hhome', Function.update_of_ne hj]
  refine ⟨?_, ?_, ?_, ?_⟩
  · intro n hn
    have hne : n ≠ as := by rintro rfl; simp [hn] at has
    obtain ⟨hfree, hfree'⟩ := h.free n hn
    refine ⟨(object?_bind_of_ne _ hne _).trans hfree, fun j => ?_⟩
    by_cases hj : j = i
    · rw [hj, hT]
      exact (object?_bind_of_ne _ hne _).trans (hfree' i)
    · rw [hT' j hj]
      exact hfree' j
  · intro n j hn
    by_cases hj : j = i
    · subst hj
      rw [hT]
      by_cases hne : n = as
      · subst hne
        exact .inr ⟨_, _, x, hself, object?_bind_self .., object?_bind_self ..⟩
      · rcases h.items n j hn with ⟨hn, hn'⟩ | ⟨_, _, _, hhome, -⟩
        · exact .inl ⟨(object?_bind_of_ne _ hne _).trans hn,
            (object?_bind_of_ne _ hne _).trans hn'⟩
        · simp [hnew] at hhome
    · have hne : n ≠ as := by rintro rfl; exact hj (Option.some.inj (hn.symm.trans has))
      rw [hT' j hj, hother j hj, object?_bind_of_ne _ hne]
      exact h.items n j hn
  · intro j a b hj
    by_cases hji : j = i
    · subst hji
      obtain ⟨rfl, rfl⟩ : _ = a ∧ _ = b := by simpa using hself.symm.trans hj
      rw [hT]
      exact ⟨c, hlast .., hlast ..⟩
    · rw [hother j hji] at hj
      obtain ⟨d, hd, hd'⟩ := h.chains j a b hj
      rw [hT' j hji]
      exact ⟨d, (List.getElem?_append_left (h.home_lt hj)).trans hd, hd'⟩
  · intro j k a b b' hj hk
    -- the chains of the others are older than the new one
    by_cases hji : j = i <;> by_cases hki : k = i
    · rw [hji, hki]
    · subst hji
      rw [hother k hki] at hk
      obtain ⟨rfl, -⟩ : _ = a ∧ _ = b := by simpa using hself.symm.trans hj
      exact absurd (h.home_lt hk) (Nat.lt_irrefl _)
    · subst hki
      rw [hother j hji] at hj
      obtain ⟨rfl, -⟩ : _ = a ∧ _ = b' := by simpa using hself.symm.trans hk
      exact absurd (h.home_lt hj) (Nat.lt_irrefl _)
    · rw [hother j hji] at hj
      rw [hother k hki] at hk
      exact h.apart j k a b b' hj hk

theorem Housed.make (h : Housed owner s S T home) {shop : String} {status : Int}
    {fields : List (List UInt8 × List UInt8)} {body : Option (List Chunk)} {preview : Option Nat}
    (hshop : s.object? shop = some (.settings e)) (hfree : owner shop = none)
    (has : owner as = some i) (hnew : home i = none)
    (ht : t = .make (.response (.settings shop) status fields body preview) as)
    (hT : T' i = ((T i).step t).1) (hT' : ∀ j, j ≠ i → T' j = T j) :
    ∃ home', (∀ j, j ≠ i → home' j = home j) ∧ Housed owner s (S.step t).1 T' home' ∧
      S.Undisturbed (T i) t (home' i) := by
  classical
  obtain ⟨hshopS, hshopT⟩ := h.free shop hfree
  rcases step_response e shop status fields body preview as with ⟨why, hstep⟩ | ⟨x, hstep⟩
  · have hS : S.step t = _ := ht ▸ hstep S (hshopS.trans hshop)
    have hTi : (T i).step t = _ := ht ▸ hstep (T i) ((hshopT i).trans hshop)
    rw [hTi] at hT
    refine ⟨home, fun _ _ => rfl, ?_, by rw [hS, hTi], by simp [hS], by simp [hS]⟩
    rw [hS, eq_of_still hT hT']
    exact h
  · have hS : S.step t = _ := ht ▸ hstep S (hshopS.trans hshop)
    have hTi : (T i).step t = _ := ht ▸ hstep (T i) ((hshopT i).trans hshop)
    rw [hTi] at hT
    refine ⟨Function.update home i (some (S.chains.length, (T i).chains.length)),
      fun j hj => Function.update_of_ne hj .., ?_, ?_, ?_, ?_⟩
    · rw [hS]
      exact h.add has hnew e.chain x hT hT'
    · rw [hS, hTi]
      rfl
    · rw [hS]
      rintro c ⟨⟩
      exact ⟨_, _, Function.update_self .., by simp [addChain]⟩
    · rw [hS]
      simp [addChain, bind]

/-- One step of an owner among those of others. -/
theorem Housed.step (h : Housed owner s S T home) (ht : t.Belongs s e owner i)
    (hnew : t.maker? owner = some i → home i = none) (hT : T' i = ((T i).step t).1)
    (hT' : ∀ j, j ≠ i → T' j = T j) :
    ∃ home', (∀ j, home' j ≠ none → home j ≠ none ∨ t.maker? owner = some j) ∧
      Housed owner s (S.step t).1 T' home' ∧ S.Undisturbed (T i) t (home' i) := by
  cases ht with
  | act hon has =>
    obtain ⟨hhoused, hundisturbed⟩ := h.act hon has hT hT'
    exact ⟨home, fun j hj => .inl hj, hhoused, hundisturbed⟩
  | make hshop hfree has =>
    obtain ⟨home', hother, hhoused, hundisturbed⟩ :=
      h.make hshop hfree has (hnew has) rfl hT hT'
    refine ⟨home', fun j hj => ?_, hhoused, hundisturbed⟩
    by_cases hji : j = i
    · exact .inr (has.trans (by rw [hji]))
    · exact .inl (hother j hji ▸ hj)

/-! ### What the owners see -/

theorem Housed.same_scene (h : Housed owner s S T home) (hn : owner n = some i) :
    S.scene? n = (T i).scene? n := by
  rcases h.items n i hn with ⟨hS, hT⟩ | ⟨a, b, x, hhome, hS, hT⟩
  · simp only [scene?, hS, hT]
  · obtain ⟨c, hc, hc'⟩ := h.chains i a b hhome
    rw [scene?_eq hS hc, scene?_eq hT hc']

/-- The number of the chain that a name holds is that of its owner. -/
theorem Housed.chainNamed? (h : Housed owner s S T home) (hn : owner n = some i) {a : Nat}
    (ha : S.chainNamed? n = some a) : ∃ b, home i = some (a, b) := by
  rcases h.items n i hn with ⟨hS, -⟩ | ⟨a', b, x, hhome, hS, -⟩
  · simp [Session.chainNamed?, hS] at ha
  · obtain rfl : a' = a := by simpa [Session.chainNamed?, hS] using ha
    exact ⟨b, hhome⟩

/-- Names hold the same chain if they have the same owner, and else they do not. -/
theorem Housed.chain_iff (h : Housed owner s S T home) {m : String} {j : ι} {a b : Nat}
    (hn : owner n = some i) (hm : owner m = some j) (ha : S.chainNamed? n = some a)
    (hb : S.chainNamed? m = some b) : a = b ↔ i = j := by
  obtain ⟨a', ha'⟩ := h.chainNamed? hn ha
  obtain ⟨b', hb'⟩ := h.chainNamed? hm hb
  constructor
  · rintro rfl
    exact h.apart i j a a' b' ha' hb'
  · rintro rfl
    have hsame := ha'.symm.trans hb'
    simp only [Option.some.injEq, Prod.mk.injEq] at hsame
    exact hsame.1

/-! ### Runs -/

variable {steps pre : List Step}

/-- The steps of the owners; each makes a response at most once. -/
structure Orderly (s : Session) (e : Settings) (owner : String → Option ι) (steps : List Step) :
    Prop where
  belongs : ∀ t ∈ steps, ∃ i, t.Belongs s e owner i
  once : (steps.filterMap (Step.maker? owner)).Nodup

theorem Orderly.of_append {post : List Step} (h : Orderly s e owner (pre ++ post)) :
    Orderly s e owner pre := by
  refine ⟨fun t ht => h.belongs t (by simp [ht]), ?_⟩
  have honce := h.once
  rw [List.filterMap_append] at honce
  exact (List.nodup_append.mp honce).1

/-- The messages that the steps bring to the reporter, in order. -/
def told (s : Session) (r : Reporter) (steps : List Step) : List String :=
  (s.run steps).2.flatMap fun a => r.received a.events

theorem run_concat (s : Session) (steps : List Step) (t : Step) :
    s.run (steps ++ [t]) =
      (((s.run steps).1.step t).1, (s.run steps).2 ++ [((s.run steps).1.step t).2]) := by
  induction steps generalizing s with
  | nil => rfl
  | cons u rest ih => simp only [List.cons_append, run, ih]

theorem told_concat (s : Session) (r : Reporter) (steps : List Step) (t : Step) :
    s.told r (steps ++ [t]) =
      s.told r steps ++ r.received ((s.run steps).1.step t).2.events := by
  simp [told, run_concat]

variable [DecidableEq ι]

theorem ownSteps_concat_self (h : owner t.name = some i) (steps : List Step) :
    ownSteps owner i (steps ++ [t]) = ownSteps owner i steps ++ [t] := by
  simp [ownSteps, h]

theorem ownSteps_concat_other {j : ι} (h : owner t.name = some i) (hj : j ≠ i)
    (steps : List Step) : ownSteps owner j (steps ++ [t]) = ownSteps owner j steps := by
  simp [ownSteps, h, Ne.symm hj]

/-- The run of the own steps of each owner. -/
def alone (s : Session) (owner : String → Option ι) (steps : List Step) (i : ι) : Session :=
  (s.run (ownSteps owner i steps)).1

/-- A step after others, with what these have left. -/
theorem Orderly.step (h : Orderly s e owner (pre ++ [t])) {home : ι → Option (Nat × Nat)}
    (hh : Housed owner s (s.run pre).1 (s.alone owner pre) home)
    (hmade : ∀ i, home i ≠ none → i ∈ pre.filterMap (Step.maker? owner)) :
    ∃ i home', t.Belongs s e owner i ∧
      (∀ j, home' j ≠ none → j ∈ (pre ++ [t]).filterMap (Step.maker? owner)) ∧
      Housed owner s (s.run (pre ++ [t])).1 (s.alone owner (pre ++ [t])) home' ∧
      (s.run pre).1.Undisturbed (s.alone owner pre i) t (home' i) := by
  obtain ⟨i, ht⟩ := h.belongs t (by simp)
  have hnew (hm : t.maker? owner = some i) : home i = none := by
    by_contra hhome
    have honce := h.once
    rw [List.filterMap_append, List.nodup_append] at honce
    exact honce.2.2 i (hmade i hhome) i (by simp [hm]) rfl
  have hself : s.alone owner (pre ++ [t]) i = ((s.alone owner pre i).step t).1 := by
    simp only [alone, ownSteps_concat_self ht.name, run_concat]
  have hother (j) (hj : j ≠ i) : s.alone owner (pre ++ [t]) j = s.alone owner pre j := by
    simp only [alone, ownSteps_concat_other ht.name hj]
  obtain ⟨home', hhome', hhoused, hundisturbed⟩ := hh.step ht hnew hself hother
  refine ⟨i, home', ht, fun j hj => ?_, ?_, hundisturbed⟩
  · rcases hhome' j hj with hold | hmaker
    · simp [hmade j hold]
    · simp [hmaker]
  · rw [run_concat]
    exact hhoused

theorem Orderly.housed (h : Orderly s e owner steps)
    (hfresh : ∀ n i, owner n = some i → s.object? n = none) :
    ∃ home, (∀ i, home i ≠ none → i ∈ steps.filterMap (Step.maker? owner)) ∧
      Housed owner s (s.run steps).1 (s.alone owner steps) home := by
  induction steps using List.reverseRecOn with
  | nil =>
    refine ⟨fun _ => none, by simp, fun _ _ => ⟨rfl, fun _ => rfl⟩, ?_, by simp, by simp⟩
    exact fun n i hn => .inl ⟨hfresh n i hn, hfresh n i hn⟩
  | append_singleton pre t ih =>
    obtain ⟨home, hmade, hh⟩ := ih h.of_append
    obtain ⟨i, home', -, hmade', hh', -⟩ := h.step hh hmade
    exact ⟨home', hmade', hh'⟩

/-- What the orderly steps bring to the reporter is what the owners' own steps would bring,
interleaved, and the recording keeps what it gets. -/
theorem Orderly.told (h : Orderly s e owner steps)
    (hfresh : ∀ n i, owner n = some i → s.object? n = none) (r : Reporter) :
    Interleaves (s.told r steps) (fun i => s.told r (ownSteps owner i steps)) ∧
      (s.run steps).1.recording = s.recording ++ s.told .recording steps := by
  induction steps using List.reverseRecOn with
  | nil => exact ⟨⟨[], rfl, fun _ => rfl⟩, (List.append_nil _).symm⟩
  | append_singleton pre t ih =>
    obtain ⟨hmixed, hrecording⟩ := ih h.of_append
    obtain ⟨home, hmade, hh⟩ := h.of_append.housed hfresh
    obtain ⟨i, home', ht, -, -, hundisturbed⟩ := h.step hh hmade
    have hevents := congrArg Answer.events hundisturbed.answer
    simp only [Answer.unnumbered] at hevents
    refine ⟨?_, ?_⟩
    · rw [told_concat]
      refine hmixed.concat (i := i) ?_ fun j hj => ?_
      · rw [ownSteps_concat_self ht.name, told_concat, hevents]
        rfl
      · rw [ownSteps_concat_other ht.name hj]
    · rw [told_concat, run_concat, ← List.append_assoc, ← hrecording]
      exact hundisturbed.recording

/-- CORRECT: however the steps of many responses made under the same settings are interleaved, each
response, with all that was taken from it, is at any time as its own steps alone would have it and
gets the answers that these would get; the reporter gets an interleaving of the messages that each
response would report alone; and just what comes from the same response holds the same chain, of
which every step on one tells what it has become for all. -/
theorem responses_isolated (owner : String → Option ι) (s : Session) (e : Settings)
    (steps : List Step) (hfresh : ∀ n i, owner n = some i → s.object? n = none)
    (h : Orderly s e owner steps) :
    (∀ pre post n i, steps = pre ++ post → owner n = some i →
      (s.run pre).1.scene? n = (s.alone owner pre i).scene? n) ∧
    (∀ pre t post i, steps = pre ++ t :: post → owner t.name = some i →
      ((s.run pre).1.step t).2.unnumbered = ((s.alone owner pre i).step t).2.unnumbered) ∧
    Interleaves (s.told e.reporter steps) (fun i => s.told e.reporter (ownSteps owner i steps)) ∧
    (s.run steps).1.recording = s.recording ++ s.told .recording steps ∧
    (∀ pre post n m i j a b, steps = pre ++ post → owner n = some i → owner m = some j →
      (s.run pre).1.chainNamed? n = some a → (s.run pre).1.chainNamed? m = some b →
      (a = b ↔ i = j)) ∧
    ∀ pre t post m i c d x, steps = pre ++ t :: post → owner t.name = some i → owner m = some i →
      ((s.run pre).1.step t).2.chain = some c →
      ((s.run pre).1.step t).1.scene? m = some (d, x) → d = c := by
  have hpre {pre post} (he : steps = pre ++ post) :
      ∃ home, (∀ i, home i ≠ none → i ∈ pre.filterMap (Step.maker? owner)) ∧
        Housed owner s (s.run pre).1 (s.alone owner pre) home :=
    (he ▸ h : Orderly s e owner (pre ++ post)).of_append.housed hfresh
  have hstep {pre t post i} (he : steps = pre ++ t :: post) (hi : owner t.name = some i) :
      ∃ home', Housed owner s (s.run (pre ++ [t])).1 (s.alone owner (pre ++ [t])) home' ∧
        (s.run pre).1.Undisturbed (s.alone owner pre i) t (home' i) := by
    have he' : steps = (pre ++ [t]) ++ post := by simp [he]
    obtain ⟨home, hmade, hh⟩ := hpre he
    obtain ⟨j, home', ht, -, hh', hundisturbed⟩ :=
      (he' ▸ h : Orderly s e owner (pre ++ [t] ++ post)).of_append.step hh hmade
    obtain rfl : i = j := Option.some.inj (hi.symm.trans ht.name)
    exact ⟨home', hh', hundisturbed⟩
  obtain ⟨hmixed, hrecording⟩ := h.told hfresh e.reporter
  refine ⟨?_, ?_, hmixed, hrecording, ?_, ?_⟩
  · intro pre post n i he hn
    obtain ⟨home, -, hh⟩ := hpre he
    exact hh.same_scene hn
  · intro pre t post i he hi
    obtain ⟨home, -, hundisturbed⟩ := hstep he hi
    exact hundisturbed.answer
  · intro pre post n m i j a b he hn hm ha hb
    obtain ⟨home, -, hh⟩ := hpre he
    exact hh.chain_iff hn hm ha hb
  · intro pre t post m i c d x he hi hm hc hd
    obtain ⟨home, hh, hundisturbed⟩ := hstep he hi
    rw [run_concat] at hh
    obtain ⟨a, b, hhome, ha⟩ := hundisturbed.chain c hc
    rcases hh.items m i hm with ⟨hnone, -⟩ | ⟨a', b', y, hhome', hy, -⟩
    · simp [scene?, hnone] at hd
    · obtain ⟨rfl, -⟩ : a = a' ∧ b = b' := by simpa using hhome.symm.trans hhome'
      rw [scene?_eq hy ha] at hd
      exact (congrArg Prod.fst (Option.some.inj hd)).symm

/-- Two owners, with the names that they use. -/
def sharers (n : String) : Option Bool :=
  if n ∈ ["a", "a.body", "a.done"] then some false
  else if n ∈ ["b", "b.chain", "b.done"] then some true
  else none

/-- A session with settings and a copy of them. -/
def shop : Session :=
  ((start (.empty "/")).run
    [.make (.settings (.reporter .recording)) "e",
      .make (.settings (.reporter .recording)) "copy"]).1

/-- Two responses, which fail in turn. -/
def medley : List Step :=
  [.make (.response (.settings "e") 200 [] (some [.data [0x61]]) none) "a",
    .make (.response (.settings "copy") 404 [] none none) "b",
    .call "a" (.item (.response .body)) "a.body",
    .call "b" .takeChain "b.chain",
    .call "a.body" (.item (.subject (.checkBody .empty))) "a.done",
    .call "b.chain" (.item (.chain (.fail (.value "late")))) "b.done",
    .call "a" (.item (.response .noContent)) "a.done"]

/-- Each of the two has failed by itself, and both messages are in the recording. -/
theorem responses_isolated_in_medley :
    let e : Settings := { reporter := .recording }
    (∀ n i, sharers n = some i → shop.object? n = none) ∧ Orderly shop e sharers medley ∧
      Interleaves (shop.told .recording medley)
        (fun i => shop.told .recording (ownSteps sharers i medley)) ∧
      (shop.run medley).1.recording.length = 2 ∧
      (shop.run medley).1.scene? "b" = (shop.alone sharers medley true).scene? "b" ∧
      (shop.run medley).1.chainNamed? "b" ≠ (shop.run medley).1.chainNamed? "a" := by
  intro e
  have hfresh : ∀ n i, sharers n = some i → shop.object? n = none := by
    have hnone : ∀ n ∈ ["a", "a.body", "a.done", "b", "b.chain", "b.done"],
        (shop.object? n).isNone = true := by decide
    intro n i hn
    refine Option.isNone_iff_eq_none.mp (hnone n ?_)
    unfold sharers at hn
    split at hn
    next h => exact List.mem_append_left ["b", "b.chain", "b.done"] h
    next =>
      split at hn
      next h => exact List.mem_append_right ["a", "a.body", "a.done"] h
      next => simp at hn
  have horderly : Orderly shop e sharers medley := by
    refine ⟨?_, by decide⟩
    simp only [medley, List.forall_mem_cons]
    exact ⟨⟨false, .make rfl rfl rfl⟩, ⟨true, .make rfl rfl rfl⟩, ⟨false, .act rfl rfl⟩,
      ⟨true, .act rfl rfl⟩, ⟨false, .act rfl rfl⟩, ⟨true, .act rfl rfl⟩, ⟨false, .act rfl rfl⟩,
      by simp⟩
  obtain ⟨hscene, -, hmixed, -⟩ := responses_isolated sharers shop e medley hfresh horderly
  exact ⟨hfresh, horderly, hmixed, by decide +kernel, hscene medley [] "b" true (by simp) rfl,
    by decide +kernel⟩

end Session

end Attest
