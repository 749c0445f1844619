import Attest.Proofs.Http.SameFields
import Attest.Proofs.Subject.Calls

/-!
Checks for equality of headers.

Headers made of fields pass for those made of others where every name has the same values in both
lists (`Subject.passes_equalsHeaders`). So the check knows fields up to the letter case of names and
the order of fields with different names, and nothing else
(`Subject.header_equality_is_of_values`).
-/

namespace Attest

/-- The check that headers equal others. -/
def Call.equalsHeaders (h : Headers) : Call := .checkHeaders (.equal h)

namespace Subject

open Headers (ofFields?)

variable {as bs ds : List HeaderField} {a b d : Headers} {c : Chain}

section Checks

variable (hok : c.failed = false) (ha : ofFields? as .empty = .ok a)
  (hb : ofFields? bs .empty = .ok b)
include hok ha hb

theorem passes_equalsHeaders :
    (headers a).Passes [] (.equalsHeaders b) c ↔ SameValues as bs := by
  have hpasses : (headers a).Passes [] (.equalsHeaders b) c ↔ a.equal b = true :=
    passes_iff hok rfl rfl
  rw [hpasses, Headers.equal_iff (Headers.formed_ofFields ha) (Headers.formed_ofFields hb)]
  simp only [SameValues, Headers.getAll_ofFields ha, Headers.getAll_ofFields hb]

theorem fails_equalsHeaders :
    (headers a).Fails [] (.equalsHeaders b) c ↔ ¬ SameValues as bs := by
  have hfails : (headers a).Fails [] (.equalsHeaders b) c ↔ a.equal b = false :=
    fails_check_iff hok rfl rfl
  have hpasses : (headers a).Passes [] (.equalsHeaders b) c ↔ a.equal b = true :=
    passes_iff hok rfl rfl
  rw [hfails, ← passes_equalsHeaders hok ha hb, hpasses, Bool.not_eq_true]

theorem passes_iff_rearranged :
    (headers a).Passes [] (.equalsHeaders b) c ↔ Rearranged as bs :=
  (passes_equalsHeaders hok ha hb).trans (Rearranged.iff_sameValues
    (Headers.legible_of_ofFields ha) (Headers.legible_of_ofFields hb)).symm

/-- Rearranged fields make headers that pass where those of the fields do. -/
theorem passes_of_rearranged (h : Rearranged as ds) : ∃ d, ofFields? ds .empty = .ok d ∧
    ((headers d).Passes [] (.equalsHeaders b) c ↔ (headers a).Passes [] (.equalsHeaders b) c) := by
  obtain ⟨d, hd⟩ := Headers.exists_ofFields?_iff.mpr
    (h.valid_iff.mp (Headers.exists_ofFields?_iff.mp ⟨a, ha⟩))
  refine ⟨d, hd, ?_⟩
  rw [passes_equalsHeaders hok hd hb, passes_equalsHeaders hok ha hb]
  exact ⟨SameValues.equivalence.trans h.sameValues,
    SameValues.equivalence.trans (SameValues.equivalence.symm h.sameValues)⟩

end Checks

/-- CORRECT. Headers made of fields, each after those before it, are equal on an OK chain exactly if
every name, in any letter case, has the same values in the same order in both lists of fields; where
they are not, the check fails. This is an equivalence. Fields in another order, with their names in
another letter case, make equal headers as long as the fields of each name keep their order, and
only these do. A field that is added or dropped is noticed, and so is a value that is changed. Where
two values of one name have changed places, the first of them is noticed, whatever comes after
it. -/
theorem header_equality_is_of_values (as bs : List HeaderField) (a b : Headers) (c : Chain)
    (hok : c.failed = false) (ha : ofFields? as .empty = .ok a)
    (hb : ofFields? bs .empty = .ok b) :
    ((headers a).Passes [] (.equalsHeaders b) c ↔
      ∀ name, valuesNamed name as = valuesNamed name bs) ∧
    ((headers a).Fails [] (.equalsHeaders b) c ↔
      ¬ (headers a).Passes [] (.equalsHeaders b) c) ∧
    (headers a).Passes [] (.equalsHeaders a) c ∧
    ((headers a).Passes [] (.equalsHeaders b) c → (headers b).Passes [] (.equalsHeaders a) c) ∧
    (∀ ds d, ofFields? ds .empty = .ok d → (headers a).Passes [] (.equalsHeaders b) c →
      (headers b).Passes [] (.equalsHeaders d) c → (headers a).Passes [] (.equalsHeaders d) c) ∧
    (∀ ds, Rearranged as ds → ∃ d, ofFields? ds .empty = .ok d ∧
      ((headers d).Passes [] (.equalsHeaders b) c ↔
        (headers a).Passes [] (.equalsHeaders b) c)) ∧
    ((headers a).Passes [] (.equalsHeaders b) c ↔ Rearranged as bs) ∧
    ∀ pre f post, as = pre ++ f :: post →
      (bs = pre ++ post → (headers a).Fails [] (.equalsHeaders b) c ∧
        (headers b).Fails [] (.equalsHeaders a) c) ∧
      (∀ g, bs = pre ++ g :: post → f.2 ≠ g.2 → (headers a).Fails [] (.equalsHeaders b) c) ∧
      ∀ g post' name, bs = pre ++ g :: post' → f.isNamed name = true → g.isNamed name = true →
        f.2 ≠ g.2 → (headers a).Fails [] (.equalsHeaders b) c := by
  have hpasses := passes_equalsHeaders hok ha hb
  have hfails := fails_equalsHeaders hok ha hb
  have hback := fails_equalsHeaders hok hb ha
  refine ⟨hpasses, by rw [hfails, hpasses], (passes_equalsHeaders hok ha ha).mpr fun _ => rfl,
    fun h => ?_, fun ds d hd h h' => ?_, fun ds => passes_of_rearranged hok ha hb,
    passes_iff_rearranged hok ha hb, ?_⟩
  · exact (passes_equalsHeaders hok hb ha).mpr (SameValues.equivalence.symm (hpasses.mp h))
  · exact (passes_equalsHeaders hok ha hd).mpr
      (SameValues.equivalence.trans (hpasses.mp h) ((passes_equalsHeaders hok hb hd).mp h'))
  · rintro pre f post rfl
    have hlegible : f.Legible := Headers.legible_of_ofFields ha f (by simp)
    refine ⟨?_, ?_, ?_⟩
    · rintro rfl
      have hdropped : ¬ SameValues (pre ++ f :: post) (pre ++ post) := fun h =>
        SameValues.not_cons_self hlegible (SameValues.append_left_iff.mp h)
      exact ⟨hfails.mpr hdropped,
        hback.mpr fun h => hdropped (SameValues.equivalence.symm h)⟩
    · rintro g rfl hne
      exact hfails.mpr fun h =>
        SameValues.not_cons_of_ne hlegible hne (SameValues.append_left_iff.mp h)
    · rintro g post' name rfl hf hg hne
      exact hfails.mpr fun h =>
        SameValues.not_cons_cons hf hg hne (SameValues.append_left_iff.mp h)

/-- Two cookies under a name in two letter cases, with another field between them, after them, or
with the cookies the other way round. -/
theorem header_equality_is_of_values_of_cookies :
    let c : Chain := { reporter := .recording }
    let one : HeaderField := .of "Set-Cookie" [0x61]
    let two : HeaderField := .of "set-cookie" [0x62]
    let other : HeaderField := .of "x" [0x63]
    let cookies : Headers := ⟨[("set-cookie", [[0x61], [0x62]]), ("x", [[0x63]])]⟩
    let exchanged : Headers := ⟨[("set-cookie", [[0x62], [0x61]]), ("x", [[0x63]])]⟩
    c.failed = false ∧ ofFields? [one, other, two] .empty = .ok cookies ∧
      ofFields? [two, one, other] .empty = .ok exchanged ∧
      (headers cookies).Fails [] (.equalsHeaders exchanged) c ∧
      ∃ d, ofFields? [one, two, other] .empty = .ok d ∧
        (headers d).Passes [] (.equalsHeaders cookies) c := by
  intro c one two other cookies exchanged
  have hcookies : ofFields? [one, other, two] .empty = .ok cookies := by decide +kernel
  have hexchanged : ofFields? [two, one, other] .empty = .ok exchanged := by decide +kernel
  have hmoved : Rearranged [one, other, two] [one, two, other] :=
    .cons one (.swap [0x63] [0x62] [] (by decide +kernel))
  obtain ⟨-, -, -, -, -, -, -, hnoticed⟩ :=
    header_equality_is_of_values _ _ _ _ c rfl hcookies hexchanged
  obtain ⟨-, -, hself, -, -, hrearranged, -⟩ :=
    header_equality_is_of_values _ _ _ _ c rfl hcookies hcookies
  obtain ⟨d, hd, hiff⟩ := hrearranged _ hmoved
  exact ⟨rfl, hcookies, hexchanged, (hnoticed [] one _ rfl).2.2 two _ "SET-COOKIE" rfl
    (by decide +kernel) (by decide +kernel) (by decide +kernel), d, hd, hiff.mpr hself⟩

end Subject

end Attest
