import Attest.Proofs.Json.Numeral

/-!
JSON text, passed over.

The compact text of a value whose doubles are numbers is passed over up to what closes it, however
deep it is, whatever its whole numbers are and in whatever order the members of its objects come
(`skipValue_chars`). The first character of a text says what kind of value it is of
(`exists_head`).
-/

namespace Attest.Json

/-! ### Values that have a text -/

mutual

/-- Every double inside is a number. -/
def Finite : Json → Prop
  | .double x => x.isFinite = true
  | .array items => FiniteItems items
  | .object members => FiniteMembers members
  | _ => True

def FiniteItems : List Json → Prop
  | [] => True
  | v :: rest => Finite v ∧ FiniteItems rest

def FiniteMembers : List (String × Json) → Prop
  | [] => True
  | (_, v) :: rest => Finite v ∧ FiniteMembers rest

end

mutual

/-- There are no doubles in a value whose numbers are whole. -/
theorem finite_of_whole : ∀ {v : Json}, Whole v → Finite v
  | .null, _ | .bool _, _ | .integer _, _ | .string _, _ => trivial
  | .double _, h => h.elim
  | .array _, h => finiteItems_of_whole h
  | .object _, h => finiteMembers_of_whole h

theorem finiteItems_of_whole : ∀ {items : List Json}, WholeItems items → FiniteItems items
  | [], _ => trivial
  | _ :: _, h => ⟨finite_of_whole h.1, finiteItems_of_whole h.2⟩

theorem finiteMembers_of_whole : ∀ {ms : List (String × Json)}, WholeMembers ms →
    FiniteMembers ms
  | [], _ => trivial
  | _ :: _, h => ⟨finite_of_whole h.1, finiteMembers_of_whole h.2⟩

end

/-! ### First characters -/

/-- What kind of text a value has. -/
inductive Kind where
  | null
  | bool (b : Bool)
  | number
  | string
  | array
  | object
deriving DecidableEq, Repr

def kind : Json → Kind
  | .null => .null
  | .bool b => .bool b
  | .integer _ | .double _ => .number
  | .string _ => .string
  | .array _ => .array
  | .object _ => .object

/-- The kind of the values whose text begins with the character. None: no text does. -/
def Kind.ofHead? (c : Char) : Option Kind :=
  if isDigit c then some .number
  else match c with
    | 'n' => some .null
    | 't' => some (.bool true)
    | 'f' => some (.bool false)
    | '-' => some .number
    | '"' => some .string
    | '[' => some .array
    | '{' => some .object
    | _ => none

theorem numeric_head {s : List Char} (hs : Numeric s) : ∃ c t, s = c :: t ∧ isDigit c = true := by
  obtain ⟨whole, fraction, exponent, rfl, ⟨⟨hne, hdigits⟩, -⟩, -, -⟩ := hs
  obtain ⟨c, t, rfl⟩ := List.exists_cons_of_ne_nil hne
  exact ⟨c, _, rfl, hdigits c List.mem_cons_self⟩

theorem numeric_ofHead {s t : List Char} (hs : Numeric s) (ht : t = s ∨ t = '-' :: s) :
    ∃ c u, t = c :: u ∧ Kind.ofHead? c = some .number := by
  rcases ht with rfl | rfl
  · obtain ⟨c, u, rfl, hc⟩ := numeric_head hs
    exact ⟨c, u, rfl, if_pos hc⟩
  · exact ⟨'-', s, rfl, rfl⟩

/-- The first character of a text gives the kind of its value. -/
theorem exists_head : ∀ {v : Json}, Finite v →
    ∃ c s, chars v = c :: s ∧ Kind.ofHead? c = some v.kind
  | .null, _ => ⟨'n', _, rfl, rfl⟩
  | .bool true, _ => ⟨'t', _, rfl, rfl⟩
  | .bool false, _ => ⟨'f', _, rfl, rfl⟩
  | .integer n, _ => by
    obtain ⟨s, hs, hchars⟩ := numeric_integer n
    exact numeric_ofHead hs hchars
  | .double x, hx => by
    obtain ⟨s, hs, hchars⟩ := numeric_double hx
    exact numeric_ofHead hs hchars
  | .string _, _ => ⟨'"', _, rfl, rfl⟩
  | .array _, _ => ⟨'[', _, rfl, rfl⟩
  | .object _, _ => ⟨'{', _, rfl, rfl⟩

/-- A character that a text begins with is no blank and ends no list. -/
theorem begins_of_head {c : Char} {kind : Kind} (h : Kind.ofHead? c = some kind) : Begins c := by
  unfold Kind.ofHead? at h
  split at h
  next hdigit => exact begins_digit hdigit
  next =>
    split at h
    case h_8 => cases h
    all_goals exact ⟨rfl, by decide⟩

/-- A value begins with a character that ends no list. -/
theorem chars_begins {v : Json} (hv : Finite v) : ∃ c s, chars v = c :: s ∧ Begins c := by
  obtain ⟨c, s, hc, hkind⟩ := exists_head hv
  exact ⟨c, s, hc, begins_of_head hkind⟩

theorem length_pos_of_finite {v : Json} (h : Finite v) : 0 < (chars v).length := by
  obtain ⟨c, s, hs, -⟩ := chars_begins h
  simp [hs]

/-! ### Strings -/

variable {fuel : Nat} {c : Char} {s rest : List Char}

theorem skipEscape_control (h : c.toNat < 0x20) (s : List Char) :
    skipEscape ('u' :: '0' :: '0' :: (if c.toNat < 16 then '0' else '1') ::
      Nat.digitChar (c.toNat % 16) :: s) = .ok s := by
  simp only [skipEscape, scanHex_control h, bind, Except.bind]

theorem skipChars_backslash {e : List Char} (h : skipEscape e = .ok s) (fuel : Nat) :
    skipChars (fuel + 1) ('\\' :: e) = skipChars fuel s := by
  simp only [skipChars, h, bind, Except.bind]

/-- A character of a string is passed over in one step. -/
theorem skipChars_escapeChar (c : Char) (fuel : Nat) (s : List Char) :
    skipChars (fuel + 1) (escapeChar c ++ s) = skipChars fuel s := by
  unfold escapeChar
  -- the escapes of one letter
  iterate 5
    split
    next => exact skipChars_backslash rfl fuel
  split
  next => exact skipChars_backslash rfl fuel
  split
  next => exact skipChars_backslash rfl fuel
  split
  next h => exact skipChars_backslash (skipEscape_control h s) fuel
  next hquote hslash _ _ _ _ _ hcontrol =>
    simp only [List.singleton_append, skipChars, hcontrol, if_false]

theorem skipChars_escape (rest : List Char) : ∀ (cs : List Char) (fuel : Nat), cs.length < fuel →
    skipChars fuel (cs.flatMap escapeChar ++ '"' :: rest) = .ok rest
  | [], fuel + 1, _ => rfl
  | c :: cs, fuel + 1, h => by
    rw [List.flatMap_cons, List.append_assoc, skipChars_escapeChar]
    exact skipChars_escape rest cs fuel (by simpa using h)

theorem skipString_stringChars (s : String) (rest : List Char) :
    skipString (s.toList.flatMap escapeChar ++ '"' :: rest) = .ok rest := by
  refine skipChars_escape rest _ _ ?_
  have hchars := length_le_escape s.toList
  simp only [List.length_append, List.length_cons]
  omega

/-! ### Steps of passing over -/

theorem skipWithin_digit (h : isDigit c = true) (s : List Char) :
    skipWithin (fuel + 1) (c :: s) = skipNumber (c :: s) := by
  have hcases := isDigit_cases h
  simp only [List.mem_cons, List.not_mem_nil, or_false] at hcases
  rcases hcases with rfl | rfl | rfl | rfl | rfl | rfl | rfl | rfl | rfl | rfl <;> rfl

theorem skipWithin_numeric {t : List Char} (hs : Numeric s) (ht : t = s ∨ t = '-' :: s)
    (hr : Closes rest) : skipWithin (fuel + 1) (t ++ rest) = .ok rest := by
  have hskip := skipNumber_numeric hs hr
  rcases ht with rfl | rfl
  · obtain ⟨c, u, rfl, hc⟩ := numeric_head hs
    rw [List.cons_append, skipWithin_digit hc]
    exact hskip
  · exact hskip

theorem skipItems_first (h : Begins c) :
    skipItems (fuel + 1) true (c :: s) =
      (skipWithin fuel (c :: s)).bind (skipItems fuel false) := by
  rw [skipItems, skipBlanks_cons h.1]
  split
  next hnil => simp at hnil
  next hend => exact absurd (List.cons.inj hend).1 h.2
  next hcons =>
    obtain ⟨rfl, rfl⟩ := List.cons.inj hcons
    rfl

theorem skipItems_next (s : List Char) :
    skipItems (fuel + 1) false (',' :: s) = (skipWithin fuel s).bind (skipItems fuel false) := rfl

theorem skipMember_skip (k : String) (t : List Char) :
    skipMember (fuel + 1) (stringChars k ++ ':' :: t) =
      (skipWithin fuel t).bind (skipMembers fuel false) := by
  have hchars : stringChars k ++ ':' :: t =
      '"' :: (k.toList.flatMap escapeChar ++ '"' :: ':' :: t) := by simp [stringChars]
  rw [hchars, skipMember, skipString_stringChars]
  rfl

section Lists

variable {v : Json} {k : String} {t : List Char}

/-- An item is passed over, and then the items after it. -/
theorem skipItems_item (hv : Finite v) (hskip : skipWithin fuel (chars v ++ t) = .ok t)
    (ht : skipItems fuel false t = .ok rest) :
    skipItems (fuel + 1) true (chars v ++ t) = .ok rest ∧
      skipItems (fuel + 1) false (',' :: (chars v ++ t)) = .ok rest := by
  rw [skipItems_next]
  obtain ⟨c, s, hs, hc⟩ := chars_begins hv
  rw [hs, List.cons_append] at hskip ⊢
  rw [skipItems_first hc, hskip]
  exact ⟨ht, ht⟩

/-- A member is passed over, and then the members after it. -/
theorem skipMembers_member (hskip : skipWithin fuel (chars v ++ t) = .ok t)
    (ht : skipMembers fuel false t = .ok rest) :
    skipMembers (fuel + 2) true (stringChars k ++ ':' :: (chars v ++ t)) = .ok rest ∧
      skipMembers (fuel + 2) false (',' :: (stringChars k ++ ':' :: (chars v ++ t))) =
        .ok rest := by
  have hmember : skipMember (fuel + 1) (stringChars k ++ ':' :: (chars v ++ t)) = .ok rest := by
    rw [skipMember_skip, hskip]
    exact ht
  exact ⟨hmember, hmember⟩

end Lists

/-! ### Passing over values -/

mutual

theorem skipWithin_chars : ∀ (v : Json) {fuel : Nat} {rest : List Char}, Finite v →
    (chars v).length ≤ fuel + 1 → Closes rest →
    skipWithin (fuel + 1) (chars v ++ rest) = .ok rest
  | .null, _, _, _, _, _ => rfl
  | .bool true, _, _, _, _, _ => rfl
  | .bool false, _, _, _, _, _ => rfl
  | .integer n, _, _, _, _, hr => by
    obtain ⟨s, hs, hchars⟩ := numeric_integer n
    exact skipWithin_numeric hs hchars hr
  | .double x, _, _, hx, _, hr => by
    obtain ⟨s, hs, hchars⟩ := numeric_double hx
    exact skipWithin_numeric hs hchars hr
  | .string s, _, rest, _, _, _ => by
    have hchars : chars (.string s) ++ rest =
        '"' :: (s.toList.flatMap escapeChar ++ '"' :: rest) := by
      simp [chars, stringChars]
    rw [hchars, skipWithin, skipBlanks_cons rfl]
    exact skipString_stringChars s rest
  | .array items, fuel, rest, hv, hf, _ => by
    simp only [chars, List.length_cons] at hf
    exact skipItems_chars items hv (by omega)
  | .object ms, fuel, rest, hv, hf, _ => by
    simp only [chars, List.length_cons] at hf
    exact skipMembers_chars ms hv (by omega)

theorem skipItems_chars : ∀ (items : List Json) {fuel : Nat} {rest : List Char},
    FiniteItems items → (itemChars items).length ≤ fuel →
    skipItems fuel true (itemChars items ++ rest) = .ok rest
  | [], fuel, _, _, hf => by
    obtain ⟨fuel, rfl⟩ : ∃ f, fuel = f + 1 := ⟨fuel - 1, by simp [itemChars] at hf; omega⟩
    rfl
  | v :: items, fuel, rest, hv, hf => by
    have hlength := length_pos_of_finite hv.1
    have htail := itemTail_length_pos items
    simp only [itemChars_cons, List.length_append] at hf
    obtain ⟨fuel, rfl⟩ : ∃ f, fuel = f + 2 := ⟨fuel - 2, by omega⟩
    rw [itemChars_cons, List.append_assoc]
    exact (skipItems_item hv.1 (skipWithin_chars v hv.1 (by omega) (closes_itemTail items rest))
      (skipItems_tail items hv.2 (by omega))).1

theorem skipItems_tail : ∀ (items : List Json) {fuel : Nat} {rest : List Char},
    FiniteItems items → (itemTail items).length ≤ fuel + 1 →
    skipItems (fuel + 1) false (itemTail items ++ rest) = .ok rest
  | [], _, _, _, _ => rfl
  | v :: items, fuel, rest, hv, hf => by
    have hlength := length_pos_of_finite hv.1
    have htail := itemTail_length_pos items
    simp only [itemTail, List.length_cons, List.length_append] at hf
    obtain ⟨fuel, rfl⟩ : ∃ f, fuel = f + 1 := ⟨fuel - 1, by omega⟩
    rw [itemTail, List.cons_append, List.append_assoc]
    exact (skipItems_item hv.1 (skipWithin_chars v hv.1 (by omega) (closes_itemTail items rest))
      (skipItems_tail items hv.2 (by omega))).2

theorem skipMembers_chars : ∀ (ms : List (String × Json)) {fuel : Nat} {rest : List Char},
    FiniteMembers ms → (memberChars ms).length ≤ fuel →
    skipMembers fuel true (memberChars ms ++ rest) = .ok rest
  | [], fuel, _, _, hf => by
    obtain ⟨fuel, rfl⟩ : ∃ f, fuel = f + 1 := ⟨fuel - 1, by simp [memberChars] at hf; omega⟩
    rfl
  | (k, v) :: ms, fuel, rest, hv, hf => by
    have hlength := length_pos_of_finite hv.1
    have htail := memberTail_length_pos ms
    simp only [memberChars_cons, stringChars, List.length_cons, List.length_append] at hf
    obtain ⟨fuel, rfl⟩ : ∃ f, fuel = f + 3 := ⟨fuel - 3, by omega⟩
    rw [memberChars_cons, List.append_assoc, List.cons_append, List.append_assoc]
    exact (skipMembers_member (skipWithin_chars v hv.1 (by omega) (closes_memberTail ms rest))
      (skipMembers_tail ms hv.2 (by omega))).1

theorem skipMembers_tail : ∀ (ms : List (String × Json)) {fuel : Nat} {rest : List Char},
    FiniteMembers ms → (memberTail ms).length ≤ fuel + 1 →
    skipMembers (fuel + 1) false (memberTail ms ++ rest) = .ok rest
  | [], _, _, _, _ => rfl
  | (k, v) :: ms, fuel, rest, hv, hf => by
    have hlength := length_pos_of_finite hv.1
    have htail := memberTail_length_pos ms
    simp only [memberTail, stringChars, List.length_cons, List.length_append] at hf
    obtain ⟨fuel, rfl⟩ : ∃ f, fuel = f + 2 := ⟨fuel - 2, by omega⟩
    rw [memberTail, List.cons_append, List.append_assoc, List.cons_append, List.append_assoc]
    exact (skipMembers_member (skipWithin_chars v hv.1 (by omega) (closes_memberTail ms rest))
      (skipMembers_tail ms hv.2 (by omega))).2

end

/-- The text of a value is passed over, up to what closes it. -/
theorem skipValue_chars {v : Json} (hv : Finite v) (hr : Closes rest) :
    skipValue (chars v ++ rest) = .ok rest := by
  refine skipWithin_chars v hv ?_ hr
  rw [List.length_append]
  omega

end Attest.Json
