import Mathlib.Data.List.DropRight
import Mathlib.Data.List.TakeWhile
import Attest.Text.Case

/-!
Splitting, trimming and letter case.

A text splits into what stands before its first separator and the pieces of what stands after it
(`splitAt_eq`), and pieces put together are split again (`splitAt_intercalate`). Trimming takes
nothing from a text without characters of the class (`trimBy_eq_self`), and all that is put around a
text (`trimBy_pad`). Lower case stays as it is (`asciiLower_asciiLower`).
-/

namespace Attest.Text

/-! ### Splitting -/

section Split

variable {sep : Char}

/-- What stands before the first separator, and the pieces of what stands after it. -/
theorem splitAt_eq (sep : Char) : ∀ s : List Char,
    splitAt sep s = s.takeWhile (· ≠ sep) ::
      match s.dropWhile (· ≠ sep) with
      | [] => []
      | _ :: rest => splitAt sep rest
  | [] => rfl
  | c :: rest => by
    by_cases hc : c = sep
    · simp [splitAt, hc]
    · simp only [splitAt, if_neg hc, splitAt_eq sep rest]
      simp [hc]

/-- A text without separators stands before the first separator as a whole. -/
theorem takeWhile_append_of_not_mem {s : List Char} (h : sep ∉ s) (rest : List Char) :
    (s ++ rest).takeWhile (· ≠ sep) = s ++ rest.takeWhile (· ≠ sep) :=
  List.takeWhile_append_of_pos fun c hc => by simpa using ne_of_mem_of_not_mem hc h

theorem dropWhile_append_of_not_mem {s : List Char} (h : sep ∉ s) (rest : List Char) :
    (s ++ rest).dropWhile (· ≠ sep) = rest.dropWhile (· ≠ sep) :=
  List.dropWhile_append_of_pos fun c hc => by simpa using ne_of_mem_of_not_mem hc h

theorem takeWhile_of_not_mem {s : List Char} (h : sep ∉ s) : s.takeWhile (· ≠ sep) = s := by
  simpa using takeWhile_append_of_not_mem h []

/-- A text without separators is one piece. -/
theorem splitAt_of_not_mem {s : List Char} (h : sep ∉ s) : splitAt sep s = [s] := by
  have hdrop : s.dropWhile (· ≠ sep) = [] := by simpa using dropWhile_append_of_not_mem h []
  rw [splitAt_eq, takeWhile_of_not_mem h, hdrop]

/-- A separator ends the piece before it. -/
theorem splitAt_append_cons {s : List Char} (h : sep ∉ s) (rest : List Char) :
    splitAt sep (s ++ sep :: rest) = s :: splitAt sep rest := by
  rw [splitAt_eq, takeWhile_append_of_not_mem h, dropWhile_append_of_not_mem h]
  simp

/-- The first separator tells what stands before it from what stands after it. -/
theorem append_cons_inj {s t r r' : List Char} (hs : sep ∉ s) (ht : sep ∉ t)
    (h : s ++ sep :: r = t ++ sep :: r') : s = t ∧ r = r' := by
  have hfirst := congrArg (List.takeWhile (· ≠ sep)) h
  have hafter := congrArg (List.dropWhile (· ≠ sep)) h
  rw [takeWhile_append_of_not_mem hs, takeWhile_append_of_not_mem ht] at hfirst
  rw [dropWhile_append_of_not_mem hs, dropWhile_append_of_not_mem ht] at hafter
  exact ⟨by simpa using hfirst, by simpa using hafter⟩

/-- So does the last one. -/
theorem append_cons_inj_last {s t r r' : List Char} (hr : sep ∉ r) (hr' : sep ∉ r')
    (h : s ++ sep :: r = t ++ sep :: r') : s = t ∧ r = r' := by
  have hreverse : r.reverse ++ sep :: s.reverse = r'.reverse ++ sep :: t.reverse := by
    simpa using congrArg List.reverse h
  obtain ⟨hlast, hbefore⟩ := append_cons_inj (by simpa using hr) (by simpa using hr') hreverse
  exact ⟨List.reverse_inj.mp hbefore, List.reverse_inj.mp hlast⟩

/-- Of pieces put together, all but the first stand after a separator. -/
theorem intercalate_cons (between : List Char) : ∀ (s : List Char) (pieces : List (List Char)),
    between.intercalate (s :: pieces) = s ++ pieces.flatMap (between ++ ·)
  | s, [] => by simp
  | s, t :: pieces => by
    rw [List.intercalate_cons_cons, intercalate_cons between t pieces, List.flatMap_cons]
    simp

/-- A character among pieces with separators between them is a separator or one of a piece. -/
theorem mem_intercalate {c : Char} {pieces : List (List Char)} (h : c ∈ [sep].intercalate pieces) :
    c = sep ∨ ∃ s ∈ pieces, c ∈ s := by
  cases pieces with
  | nil => simp at h
  | cons s pieces =>
    rw [intercalate_cons, List.mem_append, List.mem_flatMap] at h
    rcases h with hfirst | ⟨t, ht, hafter⟩
    · exact .inr ⟨s, by simp, hfirst⟩
    · rcases List.mem_cons.mp hafter with hsep | hpiece
      · exact .inl hsep
      · exact .inr ⟨t, List.mem_cons_of_mem s ht, hpiece⟩

/-- Pieces with separators between them are split into these pieces. -/
theorem splitAt_intercalate : ∀ {pieces : List (List Char)}, pieces ≠ [] →
    (∀ s ∈ pieces, sep ∉ s) → splitAt sep ([sep].intercalate pieces) = pieces
  | [s], _, h => by rw [List.intercalate_singleton, splitAt_of_not_mem (h s (by simp))]
  | s :: t :: rest, _, h => by
    have hrest : ∀ u ∈ t :: rest, sep ∉ u := fun u hu => h u (List.mem_cons_of_mem s hu)
    rw [List.intercalate_cons_cons, List.append_assoc, List.singleton_append,
      splitAt_append_cons (h s (by simp)), splitAt_intercalate (by simp) hrest]

end Split

/-! ### Trimming -/

section Trim

variable {p : Char → Bool} {s : List Char}

theorem dropWhile_eq_self (h : ∀ c ∈ s, p c = false) : s.dropWhile p = s := by
  rw [List.dropWhile_eq_self_iff]
  intro hs
  simp [h s[0]]

theorem trimBy_eq_self (h : ∀ c ∈ s, p c = false) : trimBy p s = s := by
  have hreverse : ∀ c ∈ s.reverse, p c = false := fun c hc => h c (List.mem_reverse.mp hc)
  rw [trimBy, dropWhile_eq_self h, dropWhile_eq_self hreverse, List.reverse_reverse]

theorem mem_of_mem_trimBy {c : Char} (h : c ∈ trimBy p s) : c ∈ s := by
  have hreverse := List.mem_reverse.mp h
  have hdrop := (List.dropWhile_suffix p).subset hreverse
  exact (List.dropWhile_suffix p).subset (List.mem_reverse.mp hdrop)

/-- Nothing remains of a text of characters of the class. -/
theorem trimBy_eq_nil (h : ∀ c ∈ s, p c = true) : trimBy p s = [] := by
  rw [trimBy, List.dropWhile_eq_nil_iff.mpr h]
  rfl

/-- Characters of the class at the end go. -/
theorem trimBy_append {r : List Char} (hr : ∀ c ∈ r, p c = true) :
    trimBy p (s ++ r) = trimBy p s := by
  have hreverse : ∀ c ∈ r.reverse, p c = true := fun c hc => hr c (List.mem_reverse.mp hc)
  rw [trimBy, List.dropWhile_append]
  split
  next hempty =>
    rw [List.dropWhile_eq_nil_iff.mpr hr, trimBy, List.isEmpty_iff.mp hempty]
  next => rw [List.reverse_append, List.dropWhile_append_of_pos hreverse, trimBy]

/-- What is put around a text goes. -/
theorem trimBy_pad {l r : List Char} (hl : ∀ c ∈ l, p c = true) (hr : ∀ c ∈ r, p c = true) :
    trimBy p (l ++ s ++ r) = trimBy p s := by
  rw [trimBy_append hr, trimBy, List.dropWhile_append_of_pos hl, trimBy]

/-- What goes from a text are characters of the class on its two sides. -/
theorem exists_trimBy (p : Char → Bool) (s : List Char) :
    ∃ l r, (∀ c ∈ l, p c = true) ∧ (∀ c ∈ r, p c = true) ∧ s = l ++ trimBy p s ++ r := by
  refine ⟨s.takeWhile p, (s.dropWhile p).rtakeWhile p, fun c hc => List.mem_takeWhile_imp hc,
    fun c hc => List.mem_rtakeWhile_imp hc, ?_⟩
  calc s = s.takeWhile p ++ s.dropWhile p := List.takeWhile_append_dropWhile.symm
    _ = s.takeWhile p ++ ((s.dropWhile p).rdropWhile p ++ (s.dropWhile p).rtakeWhile p) := by
      rw [List.rdropWhile_append_rtakeWhile]
    _ = s.takeWhile p ++ trimBy p s ++ (s.dropWhile p).rtakeWhile p := by
      rw [← List.append_assoc]
      rfl

theorem trimBy_trimBy : trimBy p (trimBy p s) = trimBy p s := by
  obtain ⟨l, r, hl, hr, hs⟩ := exists_trimBy p s
  calc trimBy p (trimBy p s) = trimBy p (l ++ trimBy p s ++ r) := (trimBy_pad hl hr).symm
    _ = trimBy p s := by rw [← hs]

end Trim

/-! ### Letter case -/

theorem toLower_toLower (c : Char) : c.toLower.toLower = c.toLower := by
  have hsmall (h : 'A'.val ≤ c.val ∧ c.val ≤ 'Z'.val) :
      ¬ c.val + ('a'.val - 'A'.val) ≤ 'Z'.val := by
    simp only [UInt32.le_iff_toNat_le, UInt32.toNat_add] at h ⊢
    have ha : ('a'.val - 'A'.val).toNat = 32 := rfl
    have hA : 'A'.val.toNat = 65 := rfl
    have hZ : 'Z'.val.toNat = 90 := rfl
    omega
  unfold Char.toLower
  split
  next h => rw [dif_neg fun hz => hsmall h hz.2]
  next => rfl

theorem asciiLower_asciiLower (s : List Char) : asciiLower (asciiLower s) = asciiLower s := by
  rw [asciiLower, asciiLower, List.map_map]
  exact List.map_congr_left fun c _ => toLower_toLower c

theorem sameIgnoringCase_iff {s t : String} :
    sameIgnoringCase s t = true ↔ asciiLower s.toList = asciiLower t.toList := by
  rw [sameIgnoringCase, beq_iff_eq]

end Attest.Text
