import Mathlib.Data.List.Forall2
import Attest.Proofs.Response.Stream
import Attest.Proofs.Text.Lookup
import Attest.Session.Call

/-!
Streams that give the same cannot be told apart.

Nothing that a session does shows how a stream is cut into chunks, or where it was interrupted: a
run with every stream in one piece has the same answers (`Session.run_whole`), and so have two runs
whose responses have the same bodies, cut in two ways (`Session.run_recut`).
-/

namespace Attest

/-! ### Streams in one piece -/

/-- A stream in one piece that gives the same. -/
def Chunks.whole (cs : List Chunk) : List Chunk :=
  match contents cs with
  | .ok bytes => [.data bytes]
  | .error message => [.broken message]

theorem contents_single : ∀ bytes, contents [.data bytes] = .ok bytes
  | [] => rfl
  | x :: xs => by simp [contents, Except.map]

theorem contents_whole (cs : List Chunk) : contents (Chunks.whole cs) = contents cs := by
  unfold Chunks.whole
  split
  next bytes h => rw [h, contents_single]
  next message h => rw [h]; rfl

def BodyState.whole : BodyState → BodyState
  | .unread stream => .unread (stream.map Chunks.whole)
  | .kept bytes => .kept bytes

def Response.whole (r : Response) : Response := { r with body := r.body.whole }

def Item.whole : Item → Item
  | .response r => .response r.whole
  | x => x

def Object.whole : Object → Object
  | .item id x => .item id x.whole
  | o => o

def Make.whole : Make → Make
  | .response origin status fields body preview =>
    .response origin status fields (body.map Chunks.whole) preview
  | m => m

def Step.whole : Step → Step
  | .make m as => .make m.whole as
  | .call on a as => .call on a as

def Ending.whole : Ending → Ending
  | .object o => .object o.whole
  | ending => ending

def Answer.whole (a : Answer) : Answer := { a with ending := a.ending.whole }

def Session.whole (s : Session) : Session :=
  { s with objects := s.objects.map fun e => (e.1, e.2.whole) }

/-! ### Calls -/

@[simp] theorem BodyState.whole_hasStream (b : BodyState) : b.whole.hasStream = b.hasStream := by
  match b with
  | .kept _ | .unread none | .unread (some _) => rfl

/-- A call that goes on with the body leaves no stream, and does not see how it was cut. -/
theorem BodyState.visit_whole {α : Type} (b : BodyState) (goOn : List UInt8 → Except Failure α) :
    b.whole.visit goOn = b.visit goOn := by
  match b with
  | .kept _ | .unread none => rfl
  | .unread (some cs) => simp only [whole, Option.map_some, visit, contents_whole]

def Visit.whole {α : Type} (v : Visit α) : Visit α :=
  { v with body := v.body.whole, abandoned := v.abandoned.whole }

theorem BodyState.whole_visit {α : Type} (b : BodyState) (goOn : List UInt8 → Except Failure α) :
    (b.visit goOn).whole = b.visit goOn := by
  match b with
  | .kept _ | .unread none => rfl
  | .unread (some cs) =>
    unfold visit
    dsimp only
    cases contents cs <;> rfl

theorem BodyState.untouched_whole {α : Type} (b : BodyState) (found : Except Failure α) :
    b.whole.untouched found = (b.untouched found).whole := rfl

theorem Visit.settle_whole {α : Type} (v : Visit α) (c : Chain) (placeholder : α) :
    v.whole.settle c placeholder =
      ⟨((v.settle c placeholder).state.1, (v.settle c placeholder).state.2.whole),
        (v.settle c placeholder).events, (v.settle c placeholder).outcome⟩ := by
  simp only [settle, whole]
  cases (c.settle v.found placeholder).outcome <;> rfl

namespace Response

theorem contentTypeHeader_whole (r : Response) :
    r.whole.contentTypeHeader = r.contentTypeHeader := rfl

theorem contentType_whole (r : Response) : r.whole.contentType = r.contentType := rfl

theorem visit_whole (r : Response) (k : ResponseCall) : r.whole.visit k = (r.visit k).whole := by
  have hread {α : Type} (goOn : List UInt8 → Except Failure α) :
      r.whole.body.visit goOn = (r.body.visit goOn).whole := by
    rw [BodyState.whole_visit]
    exact BodyState.visit_whole r.body goOn
  have htype (mediaType : String) (charset : Option String) :
      r.whole.contentTypeVerdict mediaType charset = r.contentTypeVerdict mediaType charset := by
    unfold contentTypeVerdict
    rw [contentType_whole, contentTypeHeader_whole]
  cases k with
  | status | headers | header => exact r.body.untouched_whole _
  | contentType | contentTypeCharset =>
    simp only [visit, htype]
    exact r.body.untouched_whole _
  | noContent | body => exact hread _
  | text =>
    simp only [visit, visitText, htype]
    split
    · rfl
    · exact congrArg (Visit.map _) (hread _)
  | json =>
    simp only [visit, visitJson, htype]
    split
    · rfl
    · rw [contentType_whole]
      split
      · exact congrArg (Visit.map _) (hread _)
      · rfl

/-- The same call, on a response with its stream in one piece. -/
theorem call_whole (r : Response) (c : Chain) (k : ResponseCall) :
    r.whole.call c k =
      ⟨((r.call c k).state.1, (r.call c k).state.2.whole), (r.call c k).events,
        (r.call c k).outcome⟩ := by
  have hremains : r.whole.remains k = r.remains k := by cases k <;> rfl
  cases hf : c.failed with
  | true =>
    rw [r.whole.call_of_failed k hf, r.call_of_failed k hf]
    rfl
  | false =>
    rw [r.whole.call_of_ok k hf, r.call_of_ok k hf, visit_whole, hremains, Visit.settle_whole]
    rfl

end Response

namespace Item

theorem call_whole (c : Chain) (x : Item) (k : ItemCall) :
    x.whole.call c k =
      (x.call c k).map fun e => ⟨(e.state.1, e.state.2.whole), e.events, e.outcome⟩ := by
  match x, k with
  | .response r, .response k =>
    simp only [whole, call, r.call_whole c k, Option.map_some]
  | .subject s, .subject k =>
    simp only [whole, call, Option.map_map]
    rfl
  | .chain, .chain _ => rfl
  | .chain, .response _ | .chain, .subject _ | .response _, .chain _ | .response _, .subject _
  | .subject _, .chain _ | .subject _, .response _ => rfl

theorem description_whole (c : Chain) (x : Item) : x.whole.description c = x.description c := by
  match x with
  | .chain | .subject _ => rfl
  | .response r =>
    have hbody : Response.bodyDescription r.whole.body = Response.bodyDescription r.body := by
      unfold Response.whole
      cases r.body <;> rfl
    have hraw : r.whole.rawDescription = r.rawDescription := by
      simp [Response.rawDescription, Response.whole]
    simp only [whole, description, Response.description, hbody, hraw]
    rfl

theorem answer_whole (c : Chain) (x : Item) (q : Question) : x.whole.answer c q = x.answer c q := by
  cases q with
  | description => exact congrArg (fun t => some (Told.text t)) (x.description_whole c)
  | rawDescription | hasBody =>
    match x with
    | .chain | .subject _ => rfl
    | .response r => simp [whole, answer, Response.rawDescription, Response.whole]
  | isFailed | failureKind | status | fields => cases x <;> rfl

end Item

/-! ### Sessions -/

namespace Session

@[simp] theorem whole_chains (s : Session) : s.whole.chains = s.chains := rfl

theorem object?_whole (s : Session) (n : String) :
    s.whole.object? n = (s.object? n).map Object.whole :=
  lookup_map Object.whole n s.objects

theorem bind_whole (s : Session) (n : String) (o : Object) :
    s.whole.bind n o.whole = (s.bind n o).whole := by
  simp only [bind, whole, List.map_cons, List.filter_map]
  rfl

theorem record_whole (s : Session) (events : List Event) :
    s.whole.record events = (s.record events).whole := rfl

theorem chainOf_whole (s : Session) (o : Object) : s.whole.chainOf o.whole = s.chainOf o := by
  cases o <;> rfl

theorem chainNamed?_whole (s : Session) (name : String) :
    s.whole.chainNamed? name = s.chainNamed? name := by
  simp only [chainNamed?, object?_whole]
  cases s.object? name with
  | none => rfl
  | some o => cases o <;> rfl

/-! Making objects. -/

/-- What was made, with every stream in one piece. -/
def wholeMade (m : Made) : Made := (m.1, m.2.map fun e => (e.1.whole, e.2.whole))

theorem withChainOf_whole (s : Session) (name : String) (x : Item) :
    s.whole.withChainOf name x.whole = wholeMade (s.withChainOf name x) := by
  simp only [withChainOf, chainNamed?_whole]
  cases s.chainNamed? name <;> rfl

theorem makeResponse_whole (s : Session) (origin : Origin) (r : Response) (preview : Option Nat) :
    s.whole.makeResponse origin r.whole preview =
      wholeMade (s.makeResponse origin r preview) := by
  cases origin with
  | reporter reporter => rfl
  | chain name =>
    exact s.withChainOf_whole name
      (.response { r with previewLimit := preview.getD r.previewLimit })
  | settings name =>
    simp only [makeResponse, object?_whole]
    cases s.object? name with
    | none => rfl
    | some o => cases o <;> rfl

theorem loadedAs_whole {α : Type} (s : Session) {object : α → Object}
    (ho : ∀ a, (object a).whole = object a) (loaded : List Event × Except Config.LoadError α) :
    s.whole.loadedAs object loaded = wholeMade (s.loadedAs object loaded) := by
  unfold loadedAs wholeMade
  cases loaded.2 with
  | ok a => simp only [Except.map, ho]
  | error e => rfl

theorem makeSettings_whole (s : Session) (origin : SettingsOrigin) :
    s.whole.makeSettings origin = wholeMade (s.makeSettings origin) := by
  cases origin with
  | reporter | defaults => rfl
  | directory dir => exact s.loadedAs_whole (fun _ => rfl) _
  | config name =>
    simp only [makeSettings, object?_whole]
    cases s.object? name with
    | none => rfl
    | some o => cases o <;> rfl

theorem received_whole (status : Int) (fields : List (List UInt8 × List UInt8))
    (body : Option (List Chunk)) :
    received status fields (body.map Chunks.whole) =
      (received status fields body).map Response.whole := by
  unfold received
  cases Status.ofCode? status.toNat with
  | none => rfl
  | some code => cases Headers.ofFields? fields .empty <;> rfl

theorem make_whole (s : Session) (m : Make) : s.whole.make m.whole = wholeMade (s.make m) := by
  cases m with
  | chain | reporter | defaultConfig | contentType | failure => rfl
  | subject chain x => exact s.withChainOf_whole chain (.subject x)
  | config => exact s.loadedAs_whole (fun _ => rfl) _
  | settings origin => exact s.makeSettings_whole origin
  | headers chain fields =>
    simp only [make, Make.whole]
    cases Headers.ofFields? fields .empty with
    | ok headers => exact s.withChainOf_whole chain (.subject (.headers headers))
    | error e => rfl
  | response origin status fields body preview =>
    simp only [make, Make.whole, received_whole]
    cases received status fields body with
    | ok r => exact s.makeResponse_whole origin r preview
    | error why => rfl

theorem makeAs_whole (s : Session) (m : Make) (name : String) :
    s.whole.makeAs m.whole name = ((s.makeAs m name).1.whole, (s.makeAs m name).2.whole) := by
  simp only [makeAs, make_whole, wholeMade]
  obtain ⟨events, made⟩ := s.make m
  cases made with
  | error why => rfl
  | ok made =>
    obtain ⟨s', o⟩ := made
    simp only [Except.map, bind_whole, chainOf_whole]
    rfl

/-! Calling objects. -/

theorem refused_whole (s : Session) (o : Object) (why : Refusal) :
    s.whole.refused o.whole why = ((s.refused o why).1.whole, (s.refused o why).2.whole) := by
  simp only [refused, chainOf_whole]
  rfl

theorem onlyTold_whole (s : Session) (o : Object) (t : Told) :
    s.whole.onlyTold o.whole t = ((s.onlyTold o t).1.whole, (s.onlyTold o t).2.whole) := by
  simp only [onlyTold, chainOf_whole]
  rfl

theorem hand_whole (s : Session) (id : Nat) (as : String) (reply : Reply) :
    s.whole.hand id as reply = ((s.hand id as reply).1.whole, (s.hand id as reply).2.whole) := by
  cases reply with
  | nothing | texts => rfl
  | subject x => exact congrArg (·, _) (s.bind_whole as (.item id (.subject x)))

theorem conclude_whole (s : Session) (on : String) (id : Nat) (e : Effect (Chain × Item) Reply)
    (as : String) :
    s.whole.conclude on id ⟨(e.state.1, e.state.2.whole), e.events, e.outcome⟩ as =
      ((s.conclude on id e as).1.whole, (s.conclude on id e as).2.whole) := by
  -- the item is put back under its name before the reply gets one
  have hbind : (s.whole.setChain id e.state.1).bind on (.item id e.state.2.whole) =
      ((s.setChain id e.state.1).bind on (.item id e.state.2)).whole :=
    (s.setChain id e.state.1).bind_whole on (.item id e.state.2)
  simp only [conclude, hbind, record_whole]
  cases e.outcome with
  | returned reply => simp only [hand_whole]; rfl
  | panicked m => rfl

theorem callItem_whole (s : Session) (on : String) (id : Nat) (c : Chain) (x : Item)
    (k : ItemCall) (as : String) :
    s.whole.callItem on id c x.whole k as =
      ((s.callItem on id c x k as).1.whole, (s.callItem on id c x k as).2.whole) := by
  simp only [callItem, Item.call_whole]
  cases x.call c k with
  | none => exact s.refused_whole (.item id x) .badStep
  | some e => exact s.conclude_whole on id e as

theorem actItem_whole (s : Session) (on : String) (id : Nat) (x : Item) (a : Action)
    (as : String) :
    s.whole.actItem on id x.whole a as =
      ((s.actItem on id x a as).1.whole, (s.actItem on id x a as).2.whole) := by
  have hrefused (why : Refusal) := s.refused_whole (.item id x) why
  have htold (t : Told) := s.onlyTold_whole (.item id x) t
  simp only [Object.whole] at hrefused htold
  simp only [actItem, whole_chains]
  cases s.chains[id]? with
  | none => exact hrefused _
  | some c =>
    cases a with
    | look => rfl
    | takeChain => exact congrArg (·, _) (s.bind_whole as (.item id .chain))
    | ask q =>
      simp only [Item.answer_whole]
      cases x.answer c q with
      | none => exact hrefused _
      | some t => exact htold t
    | item | checkStatus | checkFields | messages | count | last | clear | report | sameFailure
    | sameContentType =>
      dsimp only
      split
      next k _ => exact s.callItem_whole on id c x k as
      next why _ => exact hrefused why

theorem describeTool?_whole (s : Session) (o : Object) :
    s.whole.describeTool? o.whole = s.describeTool? o := by
  cases o <;> rfl

theorem reportTo_whole (s : Session) (r : Reporter) (message : String) :
    s.whole.reportTo r message =
      ((s.reportTo r message).1.whole, (s.reportTo r message).2.whole) := by
  cases r <;> rfl

theorem actTool_whole (s : Session) (o : Object) (a : Action) :
    s.whole.actTool o.whole a = ((s.actTool o a).1.whole, (s.actTool o a).2.whole) := by
  cases a with
  | ask q =>
    cases q with
    | description =>
      simp only [actTool, describeTool?_whole]
      cases s.describeTool? o with
      | none => exact s.refused_whole o _
      | some t => exact s.onlyTold_whole o _
    | isFailed | failureKind | status | fields | hasBody | rawDescription => cases o <;> rfl
  | report message =>
    cases o with
    | recorder => exact s.reportTo_whole .recording message
    | reporter r recorded => exact s.reportTo_whole r message
    | config c => exact s.reportTo_whole c.toReporter message
    | item | settings | contentType | failure => rfl
  | look | takeChain | item | checkStatus | checkFields | messages | count | last | clear
  | sameFailure | sameContentType => cases o <;> rfl

theorem call_whole (s : Session) (on : String) (a : Action) (as : String) :
    s.whole.call on a as = ((s.call on a as).1.whole, (s.call on a as).2.whole) := by
  simp only [call, object?_whole]
  cases s.object? on with
  | none => rfl
  | some o =>
    cases o with
    | item id x => exact s.actItem_whole on id x a as
    | recorder | reporter | config | settings | contentType | failure =>
      exact s.actTool_whole _ a

/-- Having every stream in one piece changes no answer. -/
theorem step_whole (s : Session) (t : Step) :
    s.whole.step t.whole = ((s.step t).1.whole, (s.step t).2.whole) := by
  cases t with
  | make m as => exact s.makeAs_whole m as
  | call on a as => exact s.call_whole on a as

theorem run_whole : ∀ (steps : List Step) (s : Session),
    s.whole.run (steps.map Step.whole) =
      ((s.run steps).1.whole, (s.run steps).2.map Answer.whole)
  | [], _ => rfl
  | t :: rest, s => by
    simp only [List.map_cons, run, step_whole, run_whole rest]

end Session

/-! ### Two ways to cut a stream -/

/-- The same step, or two that make the same response but for how its stream is cut: both streams
break off with the same message, or both give the same bytes. -/
inductive Step.Recut : Step → Step → Prop
  | same (t : Step) : Recut t t
  | response {origin : Origin} {status : Int} {fields : List (List UInt8 × List UInt8)}
      {preview : Option Nat} {as : String} {cs ds : List Chunk}
      (hfault : Chunks.fault? cs = Chunks.fault? ds)
      (hbytes : Chunks.fault? cs = none → Chunks.bytes cs = Chunks.bytes ds) :
    Recut (.make (.response origin status fields (some cs) preview) as)
      (.make (.response origin status fields (some ds) preview) as)

theorem Step.Recut.whole_eq {t t' : Step} (h : Recut t t') : t.whole = t'.whole := by
  cases h with
  | same => rfl
  | @response _ _ _ _ _ cs ds hfault hbytes =>
    have hcontents : contents cs = contents ds := by
      rw [contents_eq, contents_eq, ← hfault]
      cases hcs : Chunks.fault? cs with
      | none => rw [hbytes hcs]
      | some message => rfl
    simp only [Step.whole, Make.whole, Option.map_some, Chunks.whole, hcontents]

/-- A stream that does not break off is as good as its bytes in one chunk. -/
theorem Step.recut_single {cs : List Chunk} (h : Chunks.fault? cs = none) (origin : Origin)
    (status : Int) (fields : List (List UInt8 × List UInt8)) (preview : Option Nat)
    (as : String) :
    Recut (.make (.response origin status fields (some cs) preview) as)
      (.make (.response origin status fields (some [.data (Chunks.bytes cs)]) preview) as) := by
  have hcontents := contents_single (Chunks.bytes cs)
  rw [contents_eq] at hcontents
  cases hfault : Chunks.fault? [.data (Chunks.bytes cs)] with
  | some message => simp [hfault] at hcontents
  | none =>
    rw [hfault] at hcontents
    exact .response (h.trans hfault.symm) fun _ => (Except.ok.inj hcontents).symm

theorem Session.run_recut {steps steps' : List Step} (h : List.Forall₂ Step.Recut steps steps')
    (s : Session) :
    (s.run steps).1.whole = (s.run steps').1.whole ∧
      (s.run steps).2.map Answer.whole = (s.run steps').2.map Answer.whole := by
  have hwhole : steps.map Step.whole = steps'.map Step.whole := by
    induction h with
    | nil => rfl
    | cons ht _ ih => rw [List.map_cons, List.map_cons, ht.whole_eq, ih]
  have hrun := s.run_whole steps
  rw [hwhole, s.run_whole steps'] at hrun
  exact ⟨(congrArg Prod.fst hrun).symm, (congrArg Prod.snd hrun).symm⟩

end Attest
