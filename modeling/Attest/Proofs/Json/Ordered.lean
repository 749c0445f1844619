import Attest.Json.Reader
import Attest.Proofs.Json.Members

/-!
Documents are in order.

Whatever the text, a value that is read from it has the members of each object inside in order
(`sorted_of_read`): the reader puts them there when it has read them all.
-/

namespace Attest.Json

/-- Whatever the scanner reads has the property. -/
def Yields {α : Type} (p : α → Prop) (scan : Scan Cause (α × List Char)) : Prop :=
  ∀ a rest, scan = .ok (a, rest) → p a

section Yields

variable {α β : Type} {p : α → Prop}

theorem yields_ok {a : α} {rest : List Char} (h : p a) : Yields p (.ok (a, rest)) := by
  rintro _ _ ⟨⟩
  exact h

theorem yields_error {fault : Fault Cause} : Yields p (.error fault) := by
  rintro _ _ ⟨⟩

theorem yields_bind {x : Scan Cause β} {f : β → Scan Cause (α × List Char)}
    (h : ∀ b, x = .ok b → Yields p (f b)) : Yields p (x >>= f) := by
  cases x with
  | ok b => exact h b rfl
  | error fault => exact yields_error

end Yields

theorem Numeral.sorted_of_value? {n : Numeral} {v : Json} (h : n.value? = some v) :
    v.Sorted := by
  have hdouble (hx : n.double?.map Json.double = some v) : v.Sorted := by
    obtain ⟨x, -, rfl⟩ := Option.map_eq_some_iff.mp hx
    trivial
  unfold value? at h
  dsimp only at h
  split at h
  · exact hdouble h
  · split at h
    · split at h
      · cases h
        trivial
      · exact hdouble h
    · split at h
      · cases h
        trivial
      · exact hdouble h

theorem scanNumber_yields (negative : Bool) (s : List Char) :
    Yields Sorted (scanNumber negative s) := by
  refine yields_bind fun (numeral, rest) _ => ?_
  dsimp only
  split
  next v hv => exact yields_ok (Numeral.sorted_of_value? hv)
  next => exact yields_error

/-- With this fuel, what is read is in order. -/
structure ReadsSorted (fuel : Nat) : Prop where
  value : ∀ depth s, Yields Sorted (scanValue fuel depth s)
  items : ∀ depth first s, Yields SortedItems (scanItems fuel depth first s)
  members : ∀ depth first s, Yields SortedMembers (scanMembers fuel depth first s)
  member : ∀ depth s, Yields SortedMembers (scanMember fuel depth s)

namespace ReadsSorted

variable {fuel depth : Nat} {s : List Char}

theorem zero : ReadsSorted 0 where
  value _ _ := yields_error
  items _ _ _ := yields_error
  members _ _ _ := yields_error
  member _ _ := yields_error

theorem value_succ (h : ReadsSorted fuel) : Yields Sorted (scanValue (fuel + 1) depth s) := by
  rw [scanValue]
  split
  · exact yields_error
  · exact yields_bind fun _ _ => yields_ok trivial
  · exact yields_bind fun _ _ => yields_ok trivial
  · exact yields_bind fun _ _ => yields_ok trivial
  · exact yields_bind fun _ _ => yields_ok trivial
  · exact scanNumber_yields true _
  · split
    · exact yields_error
    · exact yields_bind fun (items, rest) hitems => yields_ok (h.items _ _ _ items rest hitems)
  · split
    · exact yields_error
    · exact yields_bind fun (ms, rest) hms =>
        yields_ok (sorted_ofMembers (h.members _ _ _ ms rest hms))
  · split
    · exact scanNumber_yields false _
    · exact yields_error

/-- An item and the items after it. -/
theorem item_next (h : ReadsSorted fuel) : Yields SortedItems (do
    let (v, s) ← scanValue fuel depth s
    let (vs, s) ← scanItems fuel depth false s
    .ok (v :: vs, s)) :=
  yields_bind fun (v, rest) hv => yields_bind fun (vs, rest') hvs =>
    yields_ok ⟨h.value _ _ v rest hv, h.items _ _ _ vs rest' hvs⟩

theorem items_succ (h : ReadsSorted fuel) (first : Bool) :
    Yields SortedItems (scanItems (fuel + 1) depth first s) := by
  rw [scanItems]
  split
  · exact yields_error
  · exact yields_ok trivial
  · split
    · exact h.item_next
    · split
      · split
        · exact yields_error
        · exact yields_error
        · exact h.item_next
      · exact yields_error

theorem members_succ (h : ReadsSorted fuel) (first : Bool) :
    Yields SortedMembers (scanMembers (fuel + 1) depth first s) := by
  rw [scanMembers]
  split
  · exact yields_error
  · exact yields_ok trivial
  · split
    · split
      · exact h.member _ _
      · exact yields_error
    · split
      · split
        · exact yields_error
        · exact h.member _ _
        · exact yields_error
        · exact yields_error
      · exact yields_error

theorem member_succ (h : ReadsSorted fuel) :
    Yields SortedMembers (scanMember (fuel + 1) depth s) := by
  rw [scanMember]
  refine yields_bind fun (key, rest) _ => ?_
  dsimp only
  split
  · exact yields_error
  · exact yields_bind fun (v, rest) hv => yields_bind fun (ms, rest') hms =>
      yields_ok ⟨h.value _ _ v rest hv, h.members _ _ _ ms rest' hms⟩
  · exact yields_error

end ReadsSorted

theorem readsSorted : ∀ fuel, ReadsSorted fuel
  | 0 => .zero
  | fuel + 1 =>
    have h := readsSorted fuel
    ⟨fun _ _ => h.value_succ, fun _ first _ => h.items_succ first,
      fun _ first _ => h.members_succ first, fun _ _ => h.member_succ⟩

/-- Every document is in order. -/
theorem sorted_of_read {text : String} {v : Json} (h : Json.read text = .ok v) : v.Sorted := by
  rw [Json.read, readWithin] at h
  split at h
  next w hw =>
    cases h
    cases hscan : scanValue (2 * text.toList.length + 2) depthLimit text.toList with
    | error fault => simp [scanDocument, hscan, bind, Except.bind] at hw
    | ok read =>
      obtain ⟨w, rest⟩ := read
      have hsorted : w.Sorted := (readsSorted _).value _ _ w rest hscan
      simp only [scanDocument, hscan, bind, Except.bind] at hw
      split at hw <;> cases hw
      exact hsorted
  next => cases h

end Attest.Json
