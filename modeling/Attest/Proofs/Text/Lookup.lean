import Mathlib.Data.List.Nodup

/-!
Looking names up in lists.

A name stands for the first thing in a list that has it. Where no name comes again, it stands for
whatever has it (`lookup_eq_some_iff`).
-/

namespace Attest

variable {β : Type} {m n : String} {b : β} {l : List (String × β)}

theorem lookup_cons_of_ne (h : m ≠ n) (b : β) (l : List (String × β)) :
    ((n, b) :: l).lookup m = l.lookup m := by
  have hne : (m == n) = false := by simpa using h
  rw [List.lookup_cons, hne]

/-- Of things with different names each is found under its name. -/
theorem lookup_eq_some_iff (h : (l.map Prod.fst).Nodup) : l.lookup n = some b ↔ (n, b) ∈ l := by
  induction l with
  | nil => simp
  | cons e l ih =>
    obtain ⟨n', b'⟩ := e
    obtain ⟨hnew, hrest⟩ := List.nodup_cons.mp h
    by_cases hn : n = n'
    · subst hn
      have hout : (n, b) ∉ l := fun hb => hnew (List.mem_map.mpr ⟨_, hb, rfl⟩)
      simp [hout, eq_comm]
    · rw [lookup_cons_of_ne hn, ih hrest]
      simp [hn]

theorem lookup_filter_ne (h : m ≠ n) :
    ∀ l : List (String × β), (l.filter fun e => e.1 ≠ n).lookup m = l.lookup m
  | [] => rfl
  | (a, b) :: rest => by
    by_cases ha : a = n
    · rw [List.filter_cons_of_neg (by simpa using ha), ha, lookup_cons_of_ne h,
        lookup_filter_ne h rest]
    · rw [List.filter_cons_of_pos (by simpa using ha), List.lookup_cons, List.lookup_cons,
        lookup_filter_ne h rest]

theorem lookup_map {γ : Type} (f : β → γ) (n : String) :
    ∀ l : List (String × β), (l.map fun e => (e.1, f e.2)).lookup n = (l.lookup n).map f
  | [] => rfl
  | (a, b) :: rest => by
    rw [List.map_cons, List.lookup_cons, List.lookup_cons, lookup_map f n rest]
    cases n == a <;> rfl

end Attest
