import Attest.Proofs.Response.Stream

/-!
What calls on a response see of its body.

Whether a call goes on with the body, and how, does not depend on the body (`Response.visit_plan`).
What it does to the chain, tells the reporter and hands out depends on the body through the bytes
that it gives to go on with, and on nothing else (`Response.call_congr`).
-/

namespace Attest

/-- Two bodies that give the same to go on with. -/
def BodyState.GivesSame (b b' : BodyState) : Prop :=
  ∀ {α : Type} (goOn : List UInt8 → Except Failure α), (b.visit goOn).found = (b'.visit goOn).found

/-- A stream that does not break off gives its bytes, whether it has been read or not. -/
theorem BodyState.givesSame_of_no_fault {stream : Option (List Chunk)} {b b' : BodyState}
    (hb : b.OfStream stream) (hb' : b'.OfStream stream) (h : bodyFault? stream = none) :
    b.GivesSame b' := by
  intro α goOn
  rw [visit_found hb, visit_found hb', h]
  split <;> split <;> simp_all

namespace Response

theorem contentTypeVerdict_withBody (r : Response) (b : BodyState) (mediaType : String)
    (charset : Option String) :
    { r with body := b }.contentTypeVerdict mediaType charset =
      r.contentTypeVerdict mediaType charset := by
  have hheader : { r with body := b }.contentTypeHeader = r.contentTypeHeader := rfl
  have hparsed : { r with body := b }.contentType = r.contentType := rfl
  unfold contentTypeVerdict
  rw [hheader, hparsed]

/-- Whether a call goes on with the body, and how, does not depend on the body. -/
theorem visit_plan (r : Response) (k : ResponseCall) :
    (∃ found, ∀ b, { r with body := b }.visit k = b.untouched found) ∨
      ∃ goOn, ∀ b, { r with body := b }.visit k = b.visit goOn := by
  cases k with
  | status expected => exact .inl ⟨(r.visit (.status expected)).found, fun _ => rfl⟩
  | headers => exact .inl ⟨(r.visit .headers).found, fun _ => rfl⟩
  | header name => exact .inl ⟨(r.visit (.header name)).found, fun _ => rfl⟩
  | contentType mediaType =>
    refine .inl ⟨(r.contentTypeVerdict mediaType none).found .nothing, fun b => ?_⟩
    simp only [visit, contentTypeVerdict_withBody]
  | contentTypeCharset mediaType charset =>
    refine .inl ⟨(r.contentTypeVerdict mediaType (some charset)).found .nothing, fun b => ?_⟩
    simp only [visit, contentTypeVerdict_withBody]
  | body => exact .inr ⟨fun bytes => .ok (.subject (.body bytes r.previewLimit)), fun _ => rfl⟩
  | noContent =>
    refine .inr ⟨r.noContentFound, fun b => ?_⟩
    have hfound : { r with body := b }.noContentFound = r.noContentFound := by
      funext bytes
      have hproblems : { r with body := b }.noContentProblems bytes = r.noContentProblems bytes :=
        rfl
      simp only [noContentFound, hproblems]
    simp only [visit, hfound]
  | text =>
    cases hv : r.contentTypeVerdict "text/plain" none with
    | some f =>
      refine .inl ⟨.error f, fun b => ?_⟩
      simp only [visit, visitText, contentTypeVerdict_withBody, hv]
      rfl
    | none =>
      refine .inr ⟨fun bytes => (readText bytes r.contentType.charset).map fun s =>
        .subject (.text s), fun b => ?_⟩
      simp only [visit, visitText, contentTypeVerdict_withBody, hv]
      exact BodyState.visit_map ..
  | json =>
    have hread (b : BodyState) : { r with body := b }.readJson = r.readJson := rfl
    have hparsed (b : BodyState) : { r with body := b }.contentType = r.contentType := rfl
    cases hv : r.contentTypeVerdict "application/json" none with
    | some f =>
      refine .inl ⟨.error f, fun b => ?_⟩
      simp only [visit, visitJson, contentTypeVerdict_withBody, hv]
      rfl
    | none =>
      cases hu : r.contentType.isUtf8 with
      | true =>
        refine .inr ⟨fun bytes => (r.readJson bytes).map fun v => .subject (.value (some v)),
          fun b => ?_⟩
        simp only [visit, visitJson, contentTypeVerdict_withBody, hv, hread, hparsed, hu, if_true]
        exact BodyState.visit_map ..
      | false =>
        refine .inl ⟨.error (charsetRefused r.contentType.charsetText), fun b => ?_⟩
        simp only [visit, visitJson, contentTypeVerdict_withBody, hv, hparsed, hu]
        rfl

theorem visit_found_congr (r : Response) {b b' : BodyState} (h : b.GivesSame b')
    (k : ResponseCall) :
    ({ r with body := b }.visit k).found = ({ r with body := b' }.visit k).found := by
  rcases r.visit_plan k with ⟨found, hk⟩ | ⟨goOn, hk⟩
  · rw [hk, hk]
    rfl
  · rw [hk, hk]
    exact h goOn

/-- What a call does to its chain, tells the reporter and hands out depends on the body through what
it gives alone. -/
theorem call_congr (r : Response) {b b' : BodyState} (h : b.GivesSame b') (c : Chain)
    (k : ResponseCall) :
    ({ r with body := b }.call c k).state.1 = ({ r with body := b' }.call c k).state.1 ∧
      ({ r with body := b }.call c k).outcome = ({ r with body := b' }.call c k).outcome ∧
      ∀ q : Reporter, q.received ({ r with body := b }.call c k).events =
        q.received ({ r with body := b' }.call c k).events := by
  cases hf : c.failed with
  | true =>
    rw [call_of_failed _ k hf, call_of_failed _ k hf]
    exact ⟨rfl, rfl, fun _ => rfl⟩
  | false =>
    have hremains : { r with body := b }.remains k = { r with body := b' }.remains k := by
      cases k <;> rfl
    have hfound := r.visit_found_congr h k
    rw [call_of_ok _ k hf, call_of_ok _ k hf, hremains]
    simp only [Visit.settle, hfound, Reporter.received_append, visit_told]
    exact ⟨trivial, trivial, fun _ => trivial⟩

end Response

end Attest
