import Attest.Proofs.Json.RoundTrip
import Attest.Proofs.Response.Views
import Attest.Proofs.Subject.Equality

/-!
Documents that are objects.

The members of an object may come in any order, and with names that come again. What is asked of
the object does not depend on the order: its names are listed once each, in the order of their
bytes, whether a name is there is the same however it is asked, and under a name stands the last
value that came with it (`Response.members_in_any_order`).
-/

namespace Attest

open Text.Utf8 (encodeString)

/-- The value can be read inside of an object: its objects are in order, its numbers are whole ones
of 64 bits, and it is not too deep. -/
structure Json.Enclosable (v : Json) : Prop where
  whole : v.Whole
  sorted : v.Sorted
  depth : v.depth ≤ 126

namespace Json

variable {ms : List (String × Json)}

theorem forall_enclosable_iff :
    (∀ m ∈ ms, m.2.Enclosable) ↔ WholeMembers ms ∧ SortedMembers ms ∧ depthMembers ms ≤ 126 := by
  rw [wholeMembers_iff, sortedMembers_iff, depthMembers_le_iff]
  constructor
  · intro h
    exact ⟨fun m hm => (h m hm).whole, fun m hm => (h m hm).sorted, fun m hm => (h m hm).depth⟩
  · rintro ⟨hw, hs, hd⟩ m hm
    exact ⟨hw m hm, hs m hm, hd m hm⟩

theorem read_members (h : ∀ m ∈ ms, m.2.Enclosable) :
    Json.read (Json.object ms).text = .ok (.object (ofMembers ms)) := by
  obtain ⟨hw, hs, hd⟩ := forall_enclosable_iff.mp h
  exact read_object hw hs hd

/-- The object that is read has values that it was written with, and equals itself. -/
theorem eqv_ofMembers (h : ∀ m ∈ ms, m.2.Enclosable) :
    (Json.object (ofMembers ms)).eqv (.object (ofMembers ms)) = true :=
  eqv_self _ (wholeMembers_iff.mpr fun m hm => (h m (mem_of_mem_ofMembers hm)).whole)

end Json

namespace Subject

variable {ms : Json.Members} {c : Chain} {k : String}

section Names

variable (hok : c.failed = false)
include hok

theorem gives_keys : (value (some (.object ms))).Gives [.toObject] .keys c
    (.subject (.array ((Json.keys ms).map .string))) :=
  gives_of_found hok (follow_found rfl hok) rfl rfl

theorem passes_containsKey : (value (some (.object ms))).Passes [.toObject]
    (.checkObject (.containsKey k)) c ↔ k ∈ Json.keys ms := by
  refine (passes_iff hok (follow_found rfl hok) rfl).trans ?_
  rw [Json.get?_eq_lookup, Json.mem_keys_iff, Option.isSome_iff_exists]

theorem passes_keys_contains : (value (some (.object ms))).Passes [.toObject, .keys]
    (.checkArray (.contains (.json (.string k)))) c ↔ k ∈ Json.keys ms := by
  have hfollow : (value (some (.object ms))).follow [.toObject, .keys] c =
      .pure c (some (.array ((Json.keys ms).map .string))) :=
    (follow_found rfl hok).trans (follow_told rfl c)
  refine (passes_iff hok hfollow rfl).trans ?_
  simp [Json.eqv]

theorem exists_member : (∃ u, (value (some (.object ms))).Gives [.toObject] (.member k) c
    (.subject u)) ↔ k ∈ Json.keys ms := by
  simp only [gives_member hok, Json.mem_keys_iff]
  exact ⟨fun ⟨_, w, hw, _⟩ => ⟨w, hw⟩, fun ⟨w, hw⟩ => ⟨_, w, hw, rfl⟩⟩

end Names

end Subject

namespace Response

open Subject (value)

/-- CORRECT. Of a response that announces a document and carries the text of an object, whose
members may come in any order and with names that come again, the document is given, and it is an
object. Its names are listed, each once and in the order of their bytes. That a name is there, that
it is listed and that a value is handed out for it is the same, and the value is the last one that
came with the name. Where no name comes again, the members in another order are a document that is
equal. -/
theorem members_in_any_order (r : Response) (c : Chain) (ms : List (String × Json))
    (hok : c.failed = false) (hms : ∀ m ∈ ms, m.2.Enclosable)
    (h : r.Carries "application/json" (Json.object ms).text) :
    ∃ v : Json, (r.call c .json).Gives c (.subject (.value (some v))) ∧
      (∃ object, (value (some v)).Gives [] .toObject c (.subject (.object object))) ∧
      (∃ names : List String,
        (value (some v)).Gives [.toObject] .keys c (.subject (.array (names.map .string))) ∧
        (∀ k, k ∈ names ↔ k ∈ Json.keys ms) ∧
        names.Pairwise fun j k => encodeString j < encodeString k) ∧
      (∀ k,
        ((value (some v)).Passes [.toObject] (.checkObject (.containsKey k)) c ↔
          k ∈ Json.keys ms) ∧
        ((value (some v)).Passes [.toObject, .keys]
            (.checkArray (.contains (.json (.string k)))) c ↔
          k ∈ Json.keys ms) ∧
        ((∃ u, (value (some v)).Gives [.toObject] (.member k) c (.subject u)) ↔
          k ∈ Json.keys ms) ∧
        ((value (some v)).Fails [.toObject] (.member k) c ↔ k ∉ Json.keys ms)) ∧
      (∀ before k w after, ms = before ++ (k, w) :: after → k ∉ Json.keys after →
        (value (some v)).Gives [.toObject] (.member k) c (.subject (.value (some w)))) ∧
      ((Json.keys ms).Nodup → ∀ (r' : Response) (ms' : List (String × Json)), ms.Perm ms' →
        r'.Carries "application/json" (Json.object ms').text →
        ∃ v' : Json, (r'.call c .json).Gives c (.subject (.value (some v'))) ∧
          (value (some v)).Passes [] (.equals v') c ∧
          (value (some v')).Passes [] (.equals v) c) := by
  have hmem (k : String) : k ∈ Json.keys (Json.ofMembers ms) ↔ k ∈ Json.keys ms :=
    Json.mem_keys_ofMembers
  refine ⟨.object (Json.ofMembers ms), h.gives_json hok (Json.read_members hms),
    ⟨_, Subject.gives_of_found hok rfl rfl rfl⟩, ⟨_, Subject.gives_keys hok, hmem, ?order⟩,
    fun k => ⟨?_, ?_, ?_, ?_⟩, fun before k w after hsplit hlast => ?last,
    fun hnodup r' ms' hperm h' => ?perm⟩
  case order =>
    exact (Json.increasing_ofMembers ms).pairwise.imp Text.Utf8.encodeString_lt_iff.mpr
  · exact (Subject.passes_containsKey hok).trans (hmem k)
  · exact (Subject.passes_keys_contains hok).trans (hmem k)
  · exact (Subject.exists_member hok).trans (hmem k)
  · rw [Subject.fails_member hok, Json.lookup_eq_none_iff, hmem]
  case last =>
    subst hsplit
    exact (Subject.gives_member hok).mpr ⟨w, Json.lookup_ofMembers_last hlast, rfl⟩
  case perm =>
    have hms' : ∀ m ∈ ms', m.2.Enclosable := fun m hm => hms m (hperm.mem_iff.mpr hm)
    have hequal : (value (some (.object (Json.ofMembers ms)))).Passes []
        (.equals (.object (Json.ofMembers ms))) c :=
      (Subject.passes_equals hok).mpr (Json.eqv_ofMembers hms)
    refine ⟨_, h'.gives_json hok (Json.read_members hms'), ?_⟩
    rw [← Json.ofMembers_perm hperm hnodup]
    exact ⟨hequal, hequal⟩

/-- A response that announces a document and carries the text of an object. -/
def bearing (ms : List (String × Json)) : Response :=
  (headed "application/json").holding (encodeString (Json.object ms).text)

theorem bearing_carries (ms : List (String × Json)) :
    (bearing ms).Carries "application/json" (Json.object ms).text := by
  have htype : (headed "application/json").contentType = ⟨"application/json", none⟩ := by
    decide +kernel
  have hholds := holding_carries (r := headed "application/json") (Json.object ms).text
    (by rw [htype]; rfl)
  rwa [htype] at hholds

/-- A name that comes again, and two members in both orders. -/
theorem members_in_any_order_of_pairs :
    let c : Chain := { reporter := .recording }
    let twice : List (String × Json) := [("b", .integer 1), ("a", .null), ("b", .bool true)]
    let ms : List (String × Json) := [("é", .string "x"), ("e", .array [.integer 2])]
    let ms' : List (String × Json) := [("e", .array [.integer 2]), ("é", .string "x")]
    c.failed = false ∧ (∀ m ∈ twice, m.2.Enclosable) ∧ (∀ m ∈ ms, m.2.Enclosable) ∧
      (bearing twice).Carries "application/json" (Json.object twice).text ∧
      (∃ v : Json, ((bearing twice).call c .json).Gives c (.subject (.value (some v))) ∧
        (value (some v)).Gives [.toObject] (.member "b") c
          (.subject (.value (some (.bool true)))) ∧
        (value (some v)).Fails [.toObject] (.member "c") c) ∧
      (Json.keys ms).Nodup ∧ ms.Perm ms' ∧
      ∃ v v' : Json, ((bearing ms).call c .json).Gives c (.subject (.value (some v))) ∧
        ((bearing ms').call c .json).Gives c (.subject (.value (some v'))) ∧
        (value (some v)).Passes [] (.equals v') c := by
  intro c twice ms ms'
  have htwice : ∀ m ∈ twice, m.2.Enclosable := by
    refine Json.forall_enclosable_iff.mpr ⟨?_, ?_, by decide +kernel⟩
    · simp only [twice, Json.WholeMembers, Json.Whole]
      decide +kernel
    · simp only [twice, Json.SortedMembers, Json.Sorted, and_self]
  have hms : ∀ m ∈ ms, m.2.Enclosable := by
    refine Json.forall_enclosable_iff.mpr ⟨?_, ?_, by decide +kernel⟩
    · simp only [ms, Json.WholeMembers, Json.WholeItems, Json.Whole]
      decide +kernel
    · simp only [ms, Json.SortedMembers, Json.SortedItems, Json.Sorted, and_self]
  have hnodup : (Json.keys ms).Nodup := by decide
  have hperm : ms.Perm ms' := List.Perm.swap _ _ _
  obtain ⟨v, hv, -, -, hnames, hlast, -⟩ :=
    members_in_any_order (bearing twice) c twice rfl htwice (bearing_carries twice)
  obtain ⟨w, hw, -, -, -, -, hother⟩ :=
    members_in_any_order (bearing ms) c ms rfl hms (bearing_carries ms)
  obtain ⟨w', hw', hequal, -⟩ := hother hnodup (bearing ms') ms' hperm (bearing_carries ms')
  refine ⟨rfl, htwice, hms, bearing_carries twice, ⟨v, hv, ?_, ?_⟩, hnodup, hperm, w, w', hw, hw',
    hequal⟩
  · exact hlast [("b", .integer 1), ("a", .null)] "b" (.bool true) [] rfl (by decide)
  · exact (hnames "c").2.2.2.mpr (by decide)

end Response

end Attest
