import Attest.Proofs.Json.Skipped

/-!
JSON text, told apart.

The first character of a text says what kind of value it is of (`kind_eq`), and each kind ends in a
way of its own: words by their length, strings at their closing quote, lists and objects at their
bracket, and whole numbers where no digit follows. So two texts of values whose numbers are whole,
one of which begins the other, are of the same value (`chars_append_inj`).
-/

namespace Attest.Json

/-! ### Kinds -/

section Pairs

variable {v w : Json} {r s : List Char}

/-- Texts that begin alike are of one kind. -/
theorem kind_eq (hv : Whole v) (hw : Whole w) (h : chars v ++ r = chars w ++ s) :
    v.kind = w.kind := by
  obtain ⟨c, t, hc, hkind⟩ := exists_head (finite_of_whole hv)
  obtain ⟨d, u, hd, hkind'⟩ := exists_head (finite_of_whole hw)
  rw [hc, hd, List.cons_append, List.cons_append] at h
  obtain ⟨rfl, -⟩ := List.cons.inj h
  exact Option.some.inj (hkind.symm.trans hkind')

/-- No text begins with the bracket that ends a list. -/
theorem chars_ne_bracket (hv : Whole v) : chars v ++ r ≠ ']' :: s := by
  obtain ⟨c, t, hc, -, hbegins⟩ := chars_head hv
  rw [hc, List.cons_append]
  intro h
  exact hbegins (List.cons.inj h).1

end Pairs

/-! ### Strings and whole numbers -/

/-- A string ends at its closing quote. -/
theorem stringChars_append_inj {k l : String} {r s : List Char}
    (h : stringChars k ++ r = stringChars l ++ s) : k = l ∧ r = s := by
  have hquoted : k.toList.flatMap escapeChar ++ '"' :: r =
      l.toList.flatMap escapeChar ++ '"' :: s := by simpa [stringChars] using h
  have hk := scanString_stringChars k r
  rw [hquoted, scanString_stringChars l s] at hk
  obtain ⟨rfl, rfl⟩ := Prod.mk.inj (Except.ok.inj hk)
  exact ⟨rfl, rfl⟩

section Digits

variable {r s : List Char}

/-- Digits end where no digit follows. -/
theorem digits_append_inj {n m : Nat} (hr : Stops r) (hs : Stops s)
    (h : Nat.toDigits 10 n ++ r = Nat.toDigits 10 m ++ s) : n = m ∧ r = s := by
  obtain ⟨htake, hdrop⟩ := digits_stops (fun _ hc => isDigit_toDigits (n := n) hc) hr
  obtain ⟨htake', hdrop'⟩ := digits_stops (fun _ hc => isDigit_toDigits (n := m) hc) hs
  rw [h] at htake hdrop
  have hdigits : Nat.toDigits 10 n = Nat.toDigits 10 m := htake.symm.trans htake'
  refine ⟨?_, hdrop.symm.trans hdrop'⟩
  rw [← appendDigits_toDigits n, hdigits, appendDigits_toDigits]

/-- A number without a sign does not begin with one. -/
theorem toDigits_ne_sign (n : Nat) : Nat.toDigits 10 n ++ r ≠ '-' :: s := by
  obtain ⟨c, t, hc, hdigit⟩ := toDigits_head n
  rw [hc, List.cons_append]
  intro h
  obtain ⟨rfl, -⟩ := List.cons.inj h
  cases hdigit

theorem integer_append_inj {n m : Int} (hr : Stops r) (hs : Stops s)
    (h : chars (.integer n) ++ r = chars (.integer m) ++ s) : n = m ∧ r = s := by
  rw [chars_integer, chars_integer] at h
  split at h <;> split at h
  next hn hm =>
    obtain ⟨hnat, hrest⟩ := digits_append_inj hr hs h
    exact ⟨by omega, hrest⟩
  next => exact absurd h (toDigits_ne_sign _)
  next => exact absurd h.symm (toDigits_ne_sign _)
  next hn hm =>
    obtain ⟨hnat, hrest⟩ := digits_append_inj hr hs (List.cons.inj h).2
    exact ⟨by omega, hrest⟩

end Digits

/-! ### Lists and objects -/

/-- Items that are written alike are so after others too. -/
theorem itemTail_eq {xs ys : List Json} {r s : List Char} (hx : WholeItems xs) (hy : WholeItems ys)
    (h : itemChars xs ++ r = itemChars ys ++ s) : itemTail xs ++ r = itemTail ys ++ s := by
  cases xs with
  | nil =>
    cases ys with
    | nil => exact h
    | cons y ys =>
      rw [itemChars_cons, List.append_assoc] at h
      exact absurd h.symm (chars_ne_bracket hy.1)
  | cons x xs =>
    cases ys with
    | nil =>
      rw [itemChars_cons, List.append_assoc] at h
      exact absurd h (chars_ne_bracket hx.1)
    | cons y ys =>
      rw [itemChars_cons, itemChars_cons] at h
      exact congrArg (',' :: ·) h

theorem memberTail_eq {ms ns : List (String × Json)} {r s : List Char}
    (h : memberChars ms ++ r = memberChars ns ++ s) : memberTail ms ++ r = memberTail ns ++ s := by
  match ms, ns with
  | [], [] => exact h
  | [], (l, w) :: ns | (l, w) :: ns, [] => simp [memberChars_cons, memberChars, stringChars] at h
  | (k, v) :: ms, (l, w) :: ns =>
    rw [memberChars_cons, memberChars_cons] at h
    exact congrArg (',' :: ·) h

/-! ### Values

By induction on the first of the two values, and on the items and members that follow others: the
second is of the same kind, its parts are the same one by one, and so is what comes after. -/

mutual

theorem chars_append_inj : ∀ (v w : Json) {r s : List Char}, Whole v → Whole w → Stops r →
    Stops s → chars v ++ r = chars w ++ s → v = w ∧ r = s
  | .null, w, _, _, hv, hw, _, _, h => by
    have hkind := kind_eq hv hw h
    cases w with
    | null => exact ⟨rfl, List.append_cancel_left h⟩
    | _ => cases hkind
  | .bool b, w, _, _, hv, hw, _, _, h => by
    have hkind := kind_eq hv hw h
    cases w with
    | bool b' =>
      cases hkind
      exact ⟨rfl, List.append_cancel_left h⟩
    | _ => cases hkind
  | .integer n, w, _, _, hv, hw, hr, hs, h => by
    have hkind := kind_eq hv hw h
    cases w with
    | integer m =>
      obtain ⟨rfl, hrest⟩ := integer_append_inj hr hs h
      exact ⟨rfl, hrest⟩
    | double => exact hw.elim
    | _ => cases hkind
  | .double _, _, _, _, hv, _, _, _, _ => hv.elim
  | .string k, w, _, _, hv, hw, _, _, h => by
    have hkind := kind_eq hv hw h
    cases w with
    | string l =>
      obtain ⟨rfl, hrest⟩ := stringChars_append_inj h
      exact ⟨rfl, hrest⟩
    | _ => cases hkind
  | .array items, w, _, _, hv, hw, _, _, h => by
    have hkind := kind_eq hv hw h
    cases w with
    | array items' =>
      obtain ⟨rfl, hrest⟩ := itemTail_append_inj items items' hv hw
        (itemTail_eq hv hw (List.cons.inj h).2)
      exact ⟨rfl, hrest⟩
    | _ => cases hkind
  | .object ms, w, _, _, hv, hw, _, _, h => by
    have hkind := kind_eq hv hw h
    cases w with
    | object ms' =>
      obtain ⟨rfl, hrest⟩ := memberTail_append_inj ms ms' hv hw
        (memberTail_eq (List.cons.inj h).2)
      exact ⟨rfl, hrest⟩
    | _ => cases hkind

theorem itemTail_append_inj : ∀ (xs ys : List Json) {r s : List Char}, WholeItems xs →
    WholeItems ys → itemTail xs ++ r = itemTail ys ++ s → xs = ys ∧ r = s
  | [], [], _, _, _, _, h => ⟨rfl, List.append_cancel_left h⟩
  | [], _ :: _, _, _, _, _, h | _ :: _, [], _, _, _, _, h => by simp [itemTail] at h
  | x :: xs, y :: ys, r, s, hx, hy, h => by
    rw [itemTail, itemTail, List.cons_append, List.cons_append, List.append_assoc,
      List.append_assoc] at h
    obtain ⟨rfl, hrest⟩ := chars_append_inj x y hx.1 hy.1
      (stops_of_closes (closes_itemTail xs r)) (stops_of_closes (closes_itemTail ys s))
      (List.cons.inj h).2
    obtain ⟨rfl, hafter⟩ := itemTail_append_inj xs ys hx.2 hy.2 hrest
    exact ⟨rfl, hafter⟩

theorem memberTail_append_inj : ∀ (ms ns : List (String × Json)) {r s : List Char},
    WholeMembers ms → WholeMembers ns → memberTail ms ++ r = memberTail ns ++ s →
    ms = ns ∧ r = s
  | [], [], _, _, _, _, h => ⟨rfl, List.append_cancel_left h⟩
  | [], _ :: _, _, _, _, _, h | _ :: _, [], _, _, _, _, h => by simp [memberTail] at h
  | (k, v) :: ms, (l, w) :: ns, r, s, hv, hw, h => by
    rw [memberTail, memberTail, List.cons_append, List.cons_append, List.append_assoc,
      List.append_assoc] at h
    obtain ⟨rfl, hvalue⟩ := stringChars_append_inj (List.cons.inj h).2
    have hvalues : chars v ++ (memberTail ms ++ r) = chars w ++ (memberTail ns ++ s) := by
      simpa using hvalue
    obtain ⟨rfl, hrest⟩ := chars_append_inj v w hv.1 hw.1
      (stops_of_closes (closes_memberTail ms r)) (stops_of_closes (closes_memberTail ns s)) hvalues
    obtain ⟨rfl, hafter⟩ := memberTail_append_inj ms ns hv.2 hw.2 hrest
    exact ⟨rfl, hafter⟩

end

/-- Values with the same text are the same. -/
theorem text_inj {v w : Json} (hv : Whole v) (hw : Whole w) (h : v.text = w.text) : v = w := by
  have hchars : chars v ++ [] = chars w ++ [] := by
    simpa [text] using congrArg String.toList h
  have hstops : Stops [] := by simp [Stops]
  exact (chars_append_inj v w hv hw hstops hstops hchars).1

end Attest.Json
