import Attest.Proofs.Chain.History
import Attest.Proofs.Response.Plan
import Attest.Proofs.Response.ReadOnce
import Attest.Proofs.Session.Deed

/-!
A reset makes a response as good as new.

A stream that does not break off gives the same bytes before and after it was read, and calls see
nothing else of a body. So nothing that was done to such a response, or to anything taken from it,
shows once its chain has been reset (`Session.reset_restores_fresh`).
-/

namespace Attest

/-- A stream without errors does not break off. -/
theorem bodyFault?_eq_none {stream : Option (List Chunk)}
    (h : ∀ chunks message, stream = some chunks → Chunk.broken message ∉ chunks) :
    bodyFault? stream = none := by
  cases stream with
  | none => rfl
  | some chunks =>
    refine List.findSome?_eq_none_iff.mpr fun chunk hchunk => ?_
    have hmem : chunk ∈ chunks := (List.takeWhile_prefix _).subset hchunk
    cases chunk with
    | data | interrupted => rfl
    | broken message => exact absurd hmem (h chunks message rfl)

/-- Two answers that show the same: what came of the step, but for the number of a chain, the chain,
and what the reporter was told. -/
structure Answer.ShowsSame (r : Reporter) (a a' : Answer) : Prop where
  ending : a.ending.unnumbered = a'.ending.unnumbered
  chain : a.chain = a'.chain
  reported : r.received a.events = r.received a'.events

namespace Session

variable {s f : Session} {n m : String} {id id' : Nat} {c : Chain} {r : Response}

/-- Calls on two responses that differ in their bodies, where both give the same. -/
theorem step_showsSame {b b' : BodyState} (hb : b.GivesSame b')
    (ho : s.object? n = some (.item id (.response { r with body := b })))
    (hc : s.chains[id]? = some c)
    (ho' : f.object? m = some (.item id' (.response { r with body := b' })))
    (hc' : f.chains[id']? = some c) (k : ResponseCall) (as as' : String) (q : Reporter) :
    Answer.ShowsSame q (s.step (.call n (.item (.response k)) as)).2
      (f.step (.call m (.item (.response k)) as')).2 := by
  have hstep := (step_keeps ho hc (.item (.response k)) as).answer
  have hstep' := (step_keeps ho' hc' (.item (.response k)) as').answer
  obtain ⟨hchain, hout, htold⟩ := r.call_congr hb c k
  have hdeed (b : BodyState) : (Item.response { r with body := b }).deed c (.item (.response k)) =
      .ofEffect ⟨(({ r with body := b }.call c k).state.1,
          .response ({ r with body := b }.call c k).state.2),
        ({ r with body := b }.call c k).events, ({ r with body := b }.call c k).outcome⟩ := rfl
  rw [hdeed] at hstep hstep'
  rw [hstep, hstep']
  refine ⟨?_, ?_, htold q⟩
  · simp only [Deed.answer, Deed.ofEffect, Yield.ending_unnumbered, hout]
  · simp only [Deed.answer, Deed.ofEffect, hchain]

/-- A chain keeps its reporter. -/
theorem run_reporter (steps : List Step) (hc : s.chains[id]? = some c) :
    ∃ d, (s.run steps).1.chains[id]? = some d ∧ d.reporter = c.reporter := by
  induction steps generalizing s c with
  | nil => exact ⟨c, hc, rfl⟩
  | cons t rest ih =>
    obtain ⟨d, hd, hr⟩ := ih (step_chain hc t)
    exact ⟨d, hd, hr.trans (Chain.after_reporter ..)⟩

/-- A reset, through any handle of the chain, leaves a chain like a new one and all names alone. -/
theorem step_reset {h : String} (ho : s.object? h = some (.item id .chain))
    (hc : s.chains[id]? = some c) (as : String) :
    let s' := (s.step (.call h (.item (.chain .reset)) as)).1
    s'.chains[id]? = some { reporter := c.reporter } ∧ ∀ n, s'.object? n = s.object? n := by
  have hstep := step_keeps ho hc (.item (.chain .reset)) as
  have hlt : id < s.chains.length := (List.getElem?_eq_some_iff.mp hc).1
  have hhanded : (Item.chain.deed c (.item (.chain .reset))).handed = none := rfl
  have hitem : (Item.chain.deed c (.item (.chain .reset))).item = .chain := rfl
  refine ⟨?_, fun n => ?_⟩
  · rw [hstep.chains, List.getElem?_set_self hlt]
    rfl
  · rw [hstep.object?, hhanded, hitem]
    by_cases hn : n = h
    · simp [hn, ho]
    · simp [hn]

/-- CORRECT: whatever a session has done with a response whose stream knows no errors, with all that
was taken from it and with its chain, after a reset of the chain every call on the response has the
outcome that it has on a new response with the same status, headers, body and limit: it hands out
the same or panics alike, leaves the same chain and tells the reporter the same. -/
theorem reset_restores_fresh (s : Session) (n h as : String) (id : Nat) (r : Response)
    (stream : Option (List Chunk)) (c : Chain) (history : List Step)
    (ho : s.object? n = some (.item id (.response r))) (hb : r.body = .unread stream)
    (hc : s.chains[id]? = some c)
    (hstream : ∀ chunks message, stream = some chunks → Chunk.broken message ∉ chunks)
    (hn : ∀ t ∈ history, n ≠ t.name)
    (hh : (s.run history).1.object? h = some (.item id .chain)) :
    ∀ (fresh : Session) (m : String) (id' : Nat), fresh.object? m = some (.item id' (.response r)) →
      fresh.chains[id']? = some { reporter := c.reporter } →
      ∀ (k : ResponseCall) (as' as'' : String),
        Answer.ShowsSame c.reporter
          ((s.run (history ++ [.call h (.item (.chain .reset)) as])).1.step
            (.call n (.item (.response k)) as')).2
          (fresh.step (.call m (.item (.response k)) as'')).2 := by
  intro fresh m id' ho' hc' k as' as''
  have hs : s.HoldsStream n id r stream :=
    ⟨r.body, ho, by rw [hb]; exact BodyState.ofStream_unread stream⟩
  obtain ⟨b, hob, hob'⟩ := run_holdsStream hs hn
  obtain ⟨d, hd, hreporter⟩ := run_reporter history hc
  obtain ⟨hreset, hnames⟩ := step_reset hh hd as
  have hused := hnames n
  rw [hob] at hused
  rw [hreporter] at hreset
  have hfault := bodyFault?_eq_none hstream
  have hfresh : r.body.OfStream stream := by rw [hb]; exact BodyState.ofStream_unread stream
  rw [run_append]
  exact step_showsSame (BodyState.givesSame_of_no_fault hob' hfresh hfault) hused hreset ho' hc' k
    as' as'' c.reporter

/-- Two letters with an interruption between them. -/
def letters : List Chunk := [.data [0x61], .interrupted, .data [0x62]]

/-- The body is read and is not what it should be, neither before nor after a reset. -/
def mishaps : List Step :=
  [.call "r" .takeChain "chain",
    .call "r" (.item (.response .body)) "b",
    .call "b" (.item (.subject (.checkBody .empty))) "_",
    .call "r" (.item (.response .json)) "j",
    .call "chain" (.item (.chain .reset)) "_",
    .call "r" (.item (.response .noContent)) "_"]

/-- After such a history, which leaves the stream consumed and the chain failed, and a reset, the
response has content again that it should not have, like a new one. -/
theorem reset_restores_fresh_after_mishaps :
    let s := ((start (.empty "/")).step
      (.make (.response (.reporter .recording) 200 [] (some letters) (some 1)) "r")).1
    let s' := (s.run (mishaps ++ [.call "chain" (.item (.chain .reset)) "_"])).1
    let r : Response := ⟨.ok, .empty, .unread (some letters), 1⟩
    s.object? "r" = some (.item 1 (.response r)) ∧
      s.chains[1]? = some { reporter := .recording } ∧
      (∀ message, Chunk.broken message ∉ letters) ∧ (∀ t ∈ mishaps, "r" ≠ t.name) ∧
      (s.run mishaps).1.object? "chain" = some (.item 1 .chain) ∧
      (s.run mishaps).1.hasBody "r" = false ∧
      (s.run mishaps).1.chains[1]? = some ⟨.recording, true, some .contentAbsenceViolation⟩ ∧
      Answer.ShowsSame .recording (s'.step (.call "r" (.item (.response .noContent)) "_")).2
        (s.step (.call "r" (.item (.response .noContent)) "_")).2 := by
  intro s s' r
  have hletters : ∀ message, Chunk.broken message ∉ letters := by simp [letters]
  have hn : ∀ t ∈ mishaps, "r" ≠ t.name := by decide
  have h := reset_restores_fresh s "r" "chain" "_" 1 r (some letters) { reporter := .recording }
    mishaps rfl rfl rfl (by rintro _ message ⟨⟩; exact hletters message) hn rfl s "r" 1 rfl rfl
    .noContent "_" "_"
  exact ⟨rfl, rfl, hletters, hn, rfl, rfl, rfl, h⟩

end Session

end Attest
