import Attest.Proofs.Json.Unambiguous
import Attest.Proofs.Subject.Calls

/-!
What a mismatch shows.

The message of two JSON values that should be equal shows the one that was expected and the one
there was, each by its compact text. Values whose numbers are whole are told by it
(`mismatch_unambiguous`): the first text ends where the second part of the message begins, and what
is shown for an absent value is the text of none.
-/

namespace Attest

namespace OptJson

/-- Every number inside is a whole number in the range in which these are kept. -/
def Whole (v : OptJson) : Prop := ∀ w, v = some w → w.Whole

variable {v : OptJson} {w : Json}

/-- What is shown for an absent value is the text of none. -/
theorem text_ne_shown_none (hw : w.Finite) : w.text ≠ shown none := by
  obtain ⟨c, s, hc, hkind⟩ := Json.exists_head hw
  intro h
  have hchars : Json.chars w = (shown none).toList := by
    simpa [Json.text] using congrArg String.toList h
  rw [hc] at hchars
  obtain ⟨rfl, -⟩ := List.cons.inj hchars
  cases hkind

theorem shown_inj {v v' : OptJson} (hv : v.Whole) (hv' : v'.Whole) (h : v.shown = v'.shown) :
    v = v' := by
  cases v with
  | none =>
    cases v' with
    | none => rfl
    | some w => exact absurd h.symm (text_ne_shown_none (Json.finite_of_whole (hv' w rfl)))
  | some w =>
    cases v' with
    | none => exact absurd h (text_ne_shown_none (Json.finite_of_whole (hv w rfl)))
    | some w' => rw [Json.text_inj (hv w rfl) (hv' w' rfl) h]

end OptJson

/-- The parts of a mismatch are told apart, whatever texts they are of. -/
theorem mismatchText_inj {e e' : Json} {v v' : OptJson} (he : e.Whole) (he' : e'.Whole)
    (hv : v.Whole) (hv' : v'.Whole) (h : mismatchText e v = mismatchText e' v') :
    e = e' ∧ v = v' := by
  have hchars : Json.chars e ++ ("\n\nbut got:\n  ".toList ++ v.shown.toList) =
      Json.chars e' ++ ("\n\nbut got:\n  ".toList ++ v'.shown.toList) := by
    simpa [mismatchText, Failure.mismatchMessage, Json.text] using congrArg String.toList h
  have hstops (t : List Char) : Json.Stops ("\n\nbut got:\n  ".toList ++ t) := by
    rintro c ⟨⟩
    rfl
  obtain ⟨rfl, hrest⟩ := Json.chars_append_inj e e' he he' (hstops _) (hstops _) hchars
  have hshown : v.shown = v'.shown := String.toList_inj.mp (List.append_cancel_left hrest)
  exact ⟨rfl, OptJson.shown_inj hv hv' hshown⟩

namespace Subject

/-- A check that a value, an object or an array equals the value of some data, with what the data is
compared to. -/
inductive Compares : Subject → Call → OptJson → Json.Datum → Prop
  | value (v : OptJson) (d : Json.Datum) : Compares (.value v) (.checkValue (.equal d)) v d
  | object (ms : Json.Members) (d : Json.Datum) :
    Compares (.object ms) (.checkObject (.equal d)) (some (.object ms)) d
  | array (items : List Json) (d : Json.Datum) :
    Compares (.array items) (.checkArray (.equal d)) (some (.array items)) d

section Checks

variable {s : Subject} {k : Call} {v : OptJson} {d : Json.Datum} {e : Json} {c : Chain}
  {f : Failure}

theorem Compares.judge_eq (h : Compares s k v d) (he : d.toJson = .ok e) :
    s.judge k = some (.check (require (v.equals e) (.value (mismatchText e v)))) := by
  have hcompare : compareWith d (ValueCheck.equalVerdict v) =
      require (v.equals e) (.value (mismatchText e v)) := by
    simp only [compareWith, comparable, he]
    rfl
  rw [← hcompare]
  cases h <;> rfl

/-- A check for equality fails with the mismatch, and only where there is one. -/
theorem Compares.failsWith_iff (h : Compares s k v d) (he : d.toJson = .ok e)
    (hok : c.failed = false) :
    s.FailsWith [] k c f ↔ v.equals e = false ∧ f = .value (mismatchText e v) :=
  Subject.failsWith_check_iff hok rfl (h.judge_eq he)

/-- A check that fails does not show the same text twice. -/
theorem Compares.text_ne_shown (he : e.Whole) (hv : v.Whole) (h : v.equals e = false) :
    e.text ≠ v.shown := by
  cases v with
  | none => exact OptJson.text_ne_shown_none (Json.finite_of_whole he)
  | some w =>
    intro htext
    obtain rfl : e = w := Json.text_inj he (hv w rfl) htext
    have hself : OptJson.equals (some e) e = true := Json.eqv_self e he
    rw [hself] at h
    cases h

end Checks

/-- CORRECT. Two values that should be equal, and two others, all with whole numbers alone and those
that there were possibly absent: from the same message follows that both are the same. So what two
failed checks of values, objects and arrays report is the same only if they compared the same. A
check fails exactly where the values differ, with this message and with two different texts in it.
What is shown for an absent value is no value's text, of whole numbers or not. -/
theorem mismatch_unambiguous {s s' : Subject} {k k' : Call} {v v' : OptJson} {d d' : Json.Datum}
    {e e' : Json} (hs : Compares s k v d) (hs' : Compares s' k' v' d') (hd : d.toJson = .ok e)
    (hd' : d'.toJson = .ok e') (he : e.Whole) (he' : e'.Whole) (hv : v.Whole) (hv' : v'.Whole) :
    (mismatchText e v = mismatchText e' v' → e = e' ∧ v = v') ∧
    (∀ c c' f f', c.failed = false → c'.failed = false → s.FailsWith [] k c f →
      s'.FailsWith [] k' c' f' → f.text = f'.text → e = e' ∧ v = v') ∧
    (∀ c f, c.failed = false → (s.FailsWith [] k c f ↔
      v.equals e = false ∧ f = .value (mismatchText e v))) ∧
    (v.equals e = false → e.text ≠ v.shown) ∧
    (∀ w : Json, w.Finite → w.text ≠ OptJson.shown none) := by
  have hinj := mismatchText_inj he he' hv hv'
  refine ⟨hinj, ?_, fun c f hok => hs.failsWith_iff hd hok, Compares.text_ne_shown he hv,
    fun w hw => OptJson.text_ne_shown_none hw⟩
  intro c c' f f' hok hok' hfails hfails' htext
  obtain ⟨-, rfl⟩ := (hs.failsWith_iff hd hok).mp hfails
  obtain ⟨-, rfl⟩ := (hs'.failsWith_iff hd' hok').mp hfails'
  have hfailure : Failure.value (mismatchText e v) = .value (mismatchText e' v') :=
    Failure.eq_of_text rfl htext
  exact hinj (congrArg Failure.message hfailure)

/-- Two strings and two lists that would be told alike if their texts were not quoted: where the
first part ends could not be seen. -/
theorem mismatch_unambiguous_in_parts :
    let c : Chain := { reporter := .recording }
    let e : Json := .string "one"
    let v : Json := .string "two\n\nbut got:\n  three"
    let e' : Json := .array [.string "one\n\nbut got:\n  two"]
    let items' : List Json := [.string "three"]
    let f : Failure := .value (mismatchText e (some v))
    let f' : Failure := .value (mismatchText e' (some (.array items')))
    (value (some v)).FailsWith [] (.checkValue (.equal (.json e))) c f ∧
      (array items').FailsWith [] (.checkArray (.equal (.json e'))) c f' ∧ f.text ≠ f'.text ∧
      e.text ≠ v.text ∧ Json.text (.string "<absent>") ≠ OptJson.shown none := by
  intro c e v e' items' f f'
  have hv : OptJson.Whole (some v) := by
    rintro w ⟨⟩
    exact trivial
  have hv' : OptJson.Whole (some (.array items')) := by
    rintro w ⟨⟩
    exact ⟨trivial, trivial⟩
  obtain ⟨-, hreports, hfails, hshown, habsent⟩ := mismatch_unambiguous (.value (some v) (.json e))
    (.array items' (.json e')) rfl rfl trivial ⟨trivial, trivial⟩ hv hv'
  have hfirst := (hfails c f rfl).mpr ⟨rfl, rfl⟩
  have hsecond : (array items').FailsWith [] (.checkArray (.equal (.json e'))) c f' :=
    ((Compares.array items' (.json e')).failsWith_iff rfl rfl).mpr ⟨rfl, rfl⟩
  refine ⟨hfirst, hsecond, fun htext => ?_, hshown rfl, habsent _ trivial⟩
  obtain ⟨hexpected, -⟩ := hreports c c f f' rfl rfl hfirst hsecond htext
  exact absurd hexpected (by simp [e, e'])

end Subject

end Attest
