import Attest.Proofs.Json.Equality
import Attest.Proofs.Json.Ordered
import Attest.Proofs.Json.RoundTrip
import Attest.Proofs.Subject.Calls

/-!
Checks for equality, part by part.

Values, arrays and objects can be compared as they are, and so can the parts that they give access
to. All these checks agree: a whole passes where its parts do (`Subject.equality_is_compositional`).
-/

namespace Attest

/-- The check that a value equals another one. -/
def Call.equals (t : Json) : Call := .checkValue (.equal (.json t))

namespace Subject

variable {v : OptJson} {t w : Json} {items : List Json} {ms : Json.Members} {c : Chain}

section Checks

variable (hok : c.failed = false)
include hok

/-! ### Wholes -/

theorem passes_equals : (value v).Passes [] (.equals t) c ↔ v.equals t = true :=
  passes_iff hok rfl rfl

theorem passes_differs : (value v).Passes [] (.checkValue (.notEqual (.json t))) c ↔
    (value v).Fails [] (.equals t) c := by
  have hequals : (value v).Fails [] (.equals t) c ↔ v.equals t = false :=
    fails_check_iff hok rfl rfl
  have hdiffers : (value v).Passes [] (.checkValue (.notEqual (.json t))) c ↔
      (!v.equals t) = true := passes_iff hok rfl rfl
  rw [hequals, hdiffers, Bool.not_eq_true']

theorem passes_array : (value (some (.array items))).Passes [.toArray]
    (.checkArray (.equal (.json t))) c ↔ (Json.array items).eqv t = true :=
  passes_iff hok (follow_found rfl hok) rfl

theorem passes_contains : (value (some (.array items))).Passes [.toArray]
    (.checkArray (.contains (.json t))) c ↔ items.any (·.eqv t) = true :=
  passes_iff hok (follow_found rfl hok) rfl

theorem passes_lacks : (value (some (.array items))).Passes [.toArray]
    (.checkArray (.notContains (.json t))) c ↔
      (value (some (.array items))).Fails [.toArray] (.checkArray (.contains (.json t))) c := by
  have hcontains : (value (some (.array items))).Fails [.toArray]
      (.checkArray (.contains (.json t))) c ↔ items.any (·.eqv t) = false :=
    fails_check_iff hok (follow_found rfl hok) rfl
  have hlacks : (value (some (.array items))).Passes [.toArray]
      (.checkArray (.notContains (.json t))) c ↔ (!items.any (·.eqv t)) = true :=
    passes_iff hok (follow_found rfl hok) rfl
  rw [hcontains, hlacks, Bool.not_eq_true']

theorem passes_object : (value (some (.object ms))).Passes [.toObject]
    (.checkObject (.equal (.json t))) c ↔ (Json.object ms).eqv t = true :=
  passes_iff hok (follow_found rfl hok) rfl

/-! ### Parts -/

/-- A part passes where it is there and equal. -/
theorem passes_part {v : Json} (st : PathStep) :
    (value (some v)).Passes st.calls (.equals w) c ↔
      ∃ u, v.child? st = some u ∧ u.eqv w = true :=
  (gives_step hok).trans (exists_congr fun _ => and_congr_right fun _ => passes_equals hok)

theorem passes_element (i : Nat) (w : Json) :
    (value (some (.array items))).Passes [.toArray, .element i] (.equals w) c ↔
      ∃ u, items[i]? = some u ∧ u.eqv w = true := passes_part hok (.index i)

theorem passes_member (k : String) (w : Json) :
    (value (some (.object ms))).Passes [.toObject, .member k] (.equals w) c ↔
      ∃ u, ms.lookup k = some u ∧ u.eqv w = true := passes_part hok (.key k)

theorem array_by_elements : (Json.array items).eqv t = true ↔
    ∃ items', t = .array items' ∧ items.length = items'.length ∧ ∀ i w, items'[i]? = some w →
      (value (some (.array items))).Passes [.toArray, .element i] (.equals w) c := by
  simp only [passes_element hok]
  cases t with
  | array items' => simp [Json.eqv, Json.eqvItems_iff]
  | null | bool | integer | double | string | object => simp [Json.eqv]

theorem contains_by_elements : items.any (·.eqv t) = true ↔ ∃ i < items.length,
    (value (some (.array items))).Passes [.toArray, .element i] (.equals t) c := by
  simp only [passes_element hok, List.any_eq_true, List.mem_iff_getElem?]
  constructor
  · rintro ⟨u, ⟨i, hi⟩, hu⟩
    obtain ⟨hlt, -⟩ := List.getElem?_eq_some_iff.mp hi
    exact ⟨i, hlt, u, hi, hu⟩
  · rintro ⟨i, -, u, hi, hu⟩
    exact ⟨u, ⟨i, hi⟩, hu⟩

/-- Objects whose names are in order, each once, are equal by their members. -/
theorem object_by_members (hms : (Json.object ms).Sorted) (ht : t.Sorted) :
    (Json.object ms).eqv t = true ↔
      ∃ ms', t = .object ms' ∧ (∀ k, k ∈ Json.keys ms ↔ k ∈ Json.keys ms') ∧
        ∀ k w, ms'.lookup k = some w →
          (value (some (.object ms))).Passes [.toObject, .member k] (.equals w) c := by
  simp only [passes_member hok]
  cases t with
  | object ms' => simp [Json.eqv, Json.eqvMembers_iff hms.1 ht.1]
  | null | bool | integer | double | string | array => simp [Json.eqv]

/-! ### Leaves -/

theorem text_by_accessor {s : String} : (Json.string s).eqv t = true ↔ ∃ s', t = .string s' ∧
    (value (some (.string s))).Passes [.toText] (.checkText (.equal s')) c := by
  have htext (s' : String) : (value (some (.string s))).Passes [.toText]
      (.checkText (.equal s')) c ↔ (s == s') = true := passes_iff hok (follow_found rfl hok) rfl
  simp only [htext]
  cases t <;> simp [Json.eqv]

theorem boolean_by_accessor {b : Bool} : (Json.bool b).eqv t = true ↔ ∃ b', t = .bool b' ∧
    (value (some (.bool b))).Passes [.toBoolean] (.checkBoolean b') c := by
  have hbool (b' : Bool) : (value (some (.bool b))).Passes [.toBoolean] (.checkBoolean b') c ↔
      (b == b') = true := passes_iff hok (follow_found rfl hok) rfl
  simp only [hbool]
  cases t <;> simp [Json.eqv]

end Checks

/-- CORRECT. On an OK chain all checks for equality with a value agree. An array passes, as a value
and as an array, exactly if the other is an array of the same length and each item passes for the
one at its index; it contains the value if one of its items passes for it. An object passes, as a
value and as an object, exactly if the other is an object with the same names and each member passes
for the one of its name, where the members of both are in order, as those of every document are. A
text and a boolean pass where they pass as what they are. The checks that something is not so pass
where those that it is so fail. -/
theorem equality_is_compositional (t : Json) (c : Chain) (hok : c.failed = false) :
    (∀ items : List Json,
      let v : Subject := value (some (.array items))
      (v.Passes [] (.equals t) c ↔ v.Passes [.toArray] (.checkArray (.equal (.json t))) c) ∧
      (v.Passes [] (.equals t) c ↔
        ∃ items', t = .array items' ∧ items.length = items'.length ∧
          ∀ i w, items'[i]? = some w → v.Passes [.toArray, .element i] (.equals w) c) ∧
      (v.Passes [.toArray] (.checkArray (.contains (.json t))) c ↔
        ∃ i < items.length, v.Passes [.toArray, .element i] (.equals t) c) ∧
      (v.Passes [.toArray] (.checkArray (.notContains (.json t))) c ↔
        v.Fails [.toArray] (.checkArray (.contains (.json t))) c)) ∧
    (∀ text v, Json.read text = .ok v → v.Sorted) ∧
    (∀ ms : Json.Members, (Json.object ms).Sorted → t.Sorted →
      let v : Subject := value (some (.object ms))
      (v.Passes [] (.equals t) c ↔ v.Passes [.toObject] (.checkObject (.equal (.json t))) c) ∧
      (v.Passes [] (.equals t) c ↔
        ∃ ms', t = .object ms' ∧ (∀ k, k ∈ Json.keys ms ↔ k ∈ Json.keys ms') ∧
          ∀ k w, ms'.lookup k = some w → v.Passes [.toObject, .member k] (.equals w) c)) ∧
    (∀ s : String, (value (some (.string s))).Passes [] (.equals t) c ↔
      ∃ s', t = .string s' ∧
        (value (some (.string s))).Passes [.toText] (.checkText (.equal s')) c) ∧
    (∀ b : Bool, (value (some (.bool b))).Passes [] (.equals t) c ↔
      ∃ b', t = .bool b' ∧ (value (some (.bool b))).Passes [.toBoolean] (.checkBoolean b') c) ∧
    ∀ v : OptJson, (value v).Passes [] (.checkValue (.notEqual (.json t))) c ↔
      (value v).Fails [] (.equals t) c := by
  -- each check is compared with the equality of the values
  have hequals {v : Json} : (value (some v)).Passes [] (.equals t) c ↔ v.eqv t = true :=
    passes_equals hok
  refine ⟨fun items => ⟨?_, ?_, ?_, passes_lacks hok⟩, fun _ _ => Json.sorted_of_read,
    fun ms hms ht => ⟨?_, ?_⟩, fun s => hequals.trans (text_by_accessor hok),
    fun b => hequals.trans (boolean_by_accessor hok), fun v => passes_differs hok⟩
  · exact hequals.trans (passes_array hok).symm
  · exact hequals.trans (array_by_elements hok)
  · exact (passes_contains hok).trans (contains_by_elements hok)
  · exact hequals.trans (passes_object hok).symm
  · exact hequals.trans (object_by_members hok hms ht)

/-- An object with a list under a name, read from a text where the names come the other way round,
alone and as the second item of an array. -/
theorem equality_is_compositional_in_nest :
    let c : Chain := { reporter := .recording }
    let written : Json.Members := [("name", .bool true), ("list", .array [.null, .string "x"])]
    let ms : Json.Members := [("list", .array [.null, .string "x"]), ("name", .bool true)]
    let v : Subject := value (some (.object ms))
    let outer : Subject := value (some (.array [.integer 1, .object ms]))
    c.failed = false ∧ Json.read (Json.object written).text = .ok (.object ms) ∧
      (Json.object ms).Sorted ∧ v.Passes [] (.equals (.object ms)) c ∧
      v.Passes [.toObject, .member "list"] (.equals (.array [.null, .string "x"])) c ∧
      outer.Passes [.toArray, .element 1] (.equals (.object ms)) c ∧
      outer.Passes [.toArray] (.checkArray (.contains (.json (.object ms)))) c ∧
      outer.Fails [] (.equals (.object ms)) c := by
  intro c written ms v outer
  have hput : Json.ofMembers [("name", .bool true), ("list", .array [.null, .string "x"])] =
      [("list", .array [.null, .string "x"]), ("name", .bool true)] := by rfl
  have hread : Json.read (Json.object written).text = .ok (.object (Json.ofMembers written)) :=
    Json.read_object (by simp [written, Json.WholeMembers, Json.Whole, Json.WholeItems])
      (by simp [written, Json.SortedMembers, Json.Sorted, Json.SortedItems]) (by decide +kernel)
  rw [show Json.ofMembers written = ms from hput] at hread
  obtain ⟨harray, hdocuments, hobject, -, -, hdiffers⟩ :=
    equality_is_compositional (.object ms) c rfl
  have hsorted := hdocuments _ _ hread
  have hequal : v.Passes [] (.equals (.object ms)) c := rfl
  have helement : outer.Passes [.toArray, .element 1] (.equals (.object ms)) c := rfl
  obtain ⟨ms', hms', -, hparts⟩ := (hobject ms hsorted hsorted).2.mp hequal
  obtain rfl : ms = ms' := Json.object.inj hms'
  exact ⟨rfl, hread, hsorted, hequal, hparts "list" _ rfl, helement,
    (harray _).2.2.1.mpr ⟨1, by decide, helement⟩, (hdiffers _).mp rfl⟩

end Subject

end Attest
