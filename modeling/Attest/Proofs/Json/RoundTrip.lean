import Attest.Proofs.Json.Leaves
import Attest.Proofs.Json.Members

/-!
JSON text, read back.

Of a value whose numbers are whole, whose objects have their members in order and which is not too
deep, the compact text is read back as the value itself (`read_text`). Every value is followed by
what no value can go on with, and takes no more steps to read than it has characters.
-/

namespace Attest.Json

/-! ### Values that are written as they are -/

mutual

/-- Every number inside is a whole number in the range in which these are kept. -/
def Whole : Json → Prop
  | .integer n => leastInteger ≤ n ∧ n ≤ greatestInteger
  | .double _ => False
  | .array items => WholeItems items
  | .object members => WholeMembers members
  | _ => True

def WholeItems : List Json → Prop
  | [] => True
  | v :: rest => Whole v ∧ WholeItems rest

def WholeMembers : List (String × Json) → Prop
  | [] => True
  | (_, v) :: rest => Whole v ∧ WholeMembers rest

end

mutual

/-- Without doubles, a value equals itself. -/
theorem eqv_self : ∀ v : Json, Whole v → eqv v v = true
  | .null, _ => rfl
  | .bool _, _ | .integer _, _ | .string _, _ => by simp [eqv]
  | .double _, h => h.elim
  | .array items, h => eqvItems_self items h
  | .object members, h => eqvMembers_self members h

theorem eqvItems_self : ∀ items : List Json, WholeItems items → eqvItems items items = true
  | [], _ => rfl
  | v :: rest, h => by
    rw [eqvItems, eqv_self v h.1, eqvItems_self rest h.2]
    rfl

theorem eqvMembers_self : ∀ members : List (String × Json), WholeMembers members →
    eqvMembers members members = true
  | [], _ => rfl
  | (k, v) :: rest, h => by
    rw [eqvMembers, eqv_self v h.1, eqvMembers_self rest h.2]
    simp

end

/-! ### Steps of the reader -/

variable {fuel depth : Nat} {c : Char} {s rest : List Char}

theorem isDigit_cases (h : isDigit c = true) :
    c ∈ ['0', '1', '2', '3', '4', '5', '6', '7', '8', '9'] := by
  have hrange : 48 ≤ c.toNat ∧ c.toNat ≤ 57 := by
    simp only [isDigit, Char.le_def, Bool.and_eq_true, decide_eq_true_eq] at h
    exact ⟨h.1, h.2⟩
  obtain ⟨hlow, hhigh⟩ := hrange
  have hc : Char.ofNat c.toNat = c := Char.ofNat_toNat c
  generalize c.toNat = n at hc hlow hhigh
  subst hc
  interval_cases n <;> decide

theorem scanValue_digit (h : isDigit c = true) (s : List Char) :
    scanValue (fuel + 1) depth (c :: s) = scanNumber false (c :: s) := by
  have hcases := isDigit_cases h
  simp only [List.mem_cons, List.not_mem_nil, or_false] at hcases
  rcases hcases with rfl | rfl | rfl | rfl | rfl | rfl | rfl | rfl | rfl | rfl <;> rfl

/-- A character that a value can begin with, as an item of a list. -/
def Begins (c : Char) : Prop := isBlank c = false ∧ c ≠ ']'

theorem skipBlanks_cons (h : isBlank c = false) (s : List Char) : skipBlanks (c :: s) = c :: s := by
  simp [skipBlanks, h]

theorem scanItems_first (h : Begins c) :
    scanItems (fuel + 1) depth true (c :: s) =
      (scanValue fuel depth (c :: s)).bind fun r =>
        (scanItems fuel depth false r.2).bind fun q => .ok (r.1 :: q.1, q.2) := by
  rw [scanItems, skipBlanks_cons h.1]
  split
  next hnil => simp at hnil
  next hend => exact absurd (List.cons.inj hend).1 h.2
  next hcons =>
    obtain ⟨rfl, rfl⟩ := List.cons.inj hcons
    rfl

theorem scanItems_next (h : Begins c) :
    scanItems (fuel + 1) depth false (',' :: c :: s) =
      (scanValue fuel depth (c :: s)).bind fun r =>
        (scanItems fuel depth false r.2).bind fun q => .ok (r.1 :: q.1, q.2) := by
  rw [scanItems, skipBlanks_cons rfl]
  split
  next hnil => simp at hnil
  next hend => simp at hend
  next hcomma =>
    obtain ⟨rfl, rfl⟩ := List.cons.inj hcomma
    rw [if_neg Bool.false_ne_true, if_pos rfl, skipBlanks_cons h.1]
    split
    next hnil => simp at hnil
    next hend => exact absurd (List.cons.inj hend).1 h.2
    next => rfl

theorem scanMember_read (k : String) (t : List Char) :
    scanMember (fuel + 1) depth (k.toList.flatMap escapeChar ++ '"' :: ':' :: t) =
      (scanValue fuel depth t).bind fun r =>
        (scanMembers fuel depth false r.2).bind fun q => .ok ((k, r.1) :: q.1, q.2) := by
  rw [scanMember, scanString_stringChars]
  rfl

/-! ### What the printer writes -/

/-- The characters after an item: those of the items that follow, each after a comma, and the
closing bracket. -/
def itemTail : List Json → List Char
  | [] => [']']
  | v :: rest => ',' :: (chars v ++ itemTail rest)

theorem itemChars_cons (v : Json) : ∀ rest : List Json,
    itemChars (v :: rest) = chars v ++ itemTail rest
  | [] => rfl
  | w :: rest => by rw [itemChars, itemChars_cons w rest]; rfl

def memberTail : List (String × Json) → List Char
  | [] => ['}']
  | (k, v) :: rest => ',' :: (stringChars k ++ ':' :: (chars v ++ memberTail rest))

theorem memberChars_cons (k : String) (v : Json) : ∀ rest : List (String × Json),
    memberChars ((k, v) :: rest) = stringChars k ++ ':' :: (chars v ++ memberTail rest)
  | [] => rfl
  | (k', v') :: rest => by rw [memberChars, memberChars_cons k' v' rest]; rfl

theorem closes_itemTail (items : List Json) (rest : List Char) :
    Closes (itemTail items ++ rest) := by
  cases items with
  | nil => exact .inr (.inl rfl)
  | cons => exact .inl rfl

theorem closes_memberTail (ms : List (String × Json)) (rest : List Char) :
    Closes (memberTail ms ++ rest) := by
  cases ms with
  | nil => exact .inr (.inr rfl)
  | cons => exact .inl rfl

theorem itemTail_length_pos (items : List Json) : 0 < (itemTail items).length := by
  cases items <;> simp [itemTail]

theorem memberTail_length_pos (ms : List (String × Json)) : 0 < (memberTail ms).length := by
  cases ms <;> simp [memberTail]

/-- A whole number is written in its digits, after a sign if it is negative. -/
theorem chars_integer (n : Int) : chars (.integer n) =
    if 0 ≤ n then Nat.toDigits 10 n.toNat else '-' :: Nat.toDigits 10 (-n).toNat := by
  rw [chars, Int.toString_eq_repr, Int.repr_eq_if]
  split
  · exact Nat.toList_repr
  · rw [String.toList_append, Nat.toList_repr]
    rfl

theorem toDigits_head (n : Nat) : ∃ c s, Nat.toDigits 10 n = c :: s ∧ isDigit c = true := by
  obtain ⟨c, s, hs⟩ := List.exists_cons_of_ne_nil (Nat.toDigits_ne_nil (n := n) (b := 10))
  exact ⟨c, s, hs, isDigit_toDigits (n := n) (by simp [hs])⟩

theorem begins_digit (h : isDigit c = true) : Begins c := by
  have hcases := isDigit_cases h
  simp only [List.mem_cons, List.not_mem_nil, or_false] at hcases
  rcases hcases with rfl | rfl | rfl | rfl | rfl | rfl | rfl | rfl | rfl | rfl <;>
    exact ⟨rfl, by decide⟩

theorem chars_head : ∀ {v : Json}, Whole v → ∃ c s, chars v = c :: s ∧ Begins c
  | .null, _ => ⟨'n', ['u', 'l', 'l'], rfl, rfl, by decide⟩
  | .bool true, _ => ⟨'t', ['r', 'u', 'e'], rfl, rfl, by decide⟩
  | .bool false, _ => ⟨'f', ['a', 'l', 's', 'e'], rfl, rfl, by decide⟩
  | .integer n, _ => by
    rw [chars_integer]
    split
    · obtain ⟨c, s, hs, hc⟩ := toDigits_head n.toNat
      exact ⟨c, s, hs, begins_digit hc⟩
    · exact ⟨'-', _, rfl, rfl, by decide⟩
  | .double _, h => h.elim
  | .string s, _ => ⟨'"', _, rfl, rfl, by decide⟩
  | .array items, _ => ⟨'[', _, rfl, rfl, by decide⟩
  | .object ms, _ => ⟨'{', _, rfl, rfl, by decide⟩

theorem chars_length_pos {v : Json} (h : Whole v) : 0 < (chars v).length := by
  obtain ⟨c, s, hs, -⟩ := chars_head h
  simp [hs]

/-! ### Reading back -/

/-- A whole number is read back. -/
theorem scanValue_integer {n : Int} (hlow : leastInteger ≤ n) (hhigh : n ≤ greatestInteger)
    (hr : Closes rest) :
    scanValue (fuel + 1) depth (chars (.integer n) ++ rest) = .ok (.integer n, rest) := by
  rw [chars_integer]
  split
  next hn =>
    obtain ⟨c, s, hs, hc⟩ := toDigits_head n.toNat
    have hfits : n.toNat < pow2 64 := by
      simp only [greatestInteger] at hhigh
      omega
    have hread := scanNumber_natural hfits hr
    rw [hs, List.cons_append] at hread ⊢
    rw [scanValue_digit hc, hread, Int.toNat_of_nonneg hn]
  next hn =>
    have hfits : (-n).toNat ≤ pow2 63 := by
      simp only [leastInteger] at hlow
      omega
    have hread := scanNumber_negative (show 0 < (-n).toNat by omega) hfits hr
    rw [show -((-n).toNat : Int) = n by omega] at hread
    exact hread

section Lists

variable {v : Json} {items : List Json} {k : String} {ms : List (String × Json)} {t : List Char}

/-- An item is read, and then the items after it. -/
theorem scanItems_item (hw : Whole v) (hv : scanValue fuel depth (chars v ++ t) = .ok (v, t))
    (ht : scanItems fuel depth false t = .ok (items, rest)) :
    scanItems (fuel + 1) depth true (chars v ++ t) = .ok (v :: items, rest) ∧
      scanItems (fuel + 1) depth false (',' :: (chars v ++ t)) = .ok (v :: items, rest) := by
  obtain ⟨c, s, hs, hc⟩ := chars_head hw
  rw [hs, List.cons_append] at hv ⊢
  rw [scanItems_first hc, scanItems_next hc, hv]
  simp only [Except.bind, ht]
  exact ⟨trivial, trivial⟩

/-- A member is read, and then the members after it. -/
theorem scanMembers_member (hv : scanValue fuel depth (chars v ++ t) = .ok (v, t))
    (ht : scanMembers fuel depth false t = .ok (ms, rest)) :
    scanMembers (fuel + 2) depth true (stringChars k ++ ':' :: (chars v ++ t)) =
        .ok ((k, v) :: ms, rest) ∧
      scanMembers (fuel + 2) depth false (',' :: (stringChars k ++ ':' :: (chars v ++ t))) =
        .ok ((k, v) :: ms, rest) := by
  have hmember : scanMember (fuel + 1) depth
      (k.toList.flatMap escapeChar ++ '"' :: ':' :: (chars v ++ t)) = .ok ((k, v) :: ms, rest) := by
    rw [scanMember_read, hv]
    simp only [Except.bind, ht]
  have hchars : stringChars k ++ ':' :: (chars v ++ t) =
      '"' :: (k.toList.flatMap escapeChar ++ '"' :: ':' :: (chars v ++ t)) := by
    simp [stringChars]
  rw [hchars]
  exact ⟨hmember, hmember⟩

/-- An object is what its members come to when they are put in order. -/
theorem scanValue_object (h : scanMembers fuel depth true t = .ok (ms, rest)) :
    scanValue (fuel + 1) (depth + 1) ('{' :: t) = .ok (.object (ofMembers ms), rest) := by
  rw [scanValue, skipBlanks_cons rfl]
  simp only [h, bind, Except.bind]

end Lists

/-! The text of a value is read back in no more steps than it has characters, whatever closes it,
and so are the texts of the items and members that follow others. -/

mutual

theorem scanValue_chars : ∀ (v : Json) {fuel depth : Nat} {rest : List Char}, Whole v → Sorted v →
    (chars v).length ≤ fuel + 1 → v.depth ≤ depth → Closes rest →
    scanValue (fuel + 1) depth (chars v ++ rest) = .ok (v, rest)
  | .null, _, _, _, _, _, _, _, _ => rfl
  | .bool true, _, _, _, _, _, _, _, _ => rfl
  | .bool false, _, _, _, _, _, _, _, _ => rfl
  | .integer _, _, _, _, hw, _, _, _, hr => scanValue_integer hw.1 hw.2 hr
  | .double _, _, _, _, hw, _, _, _, _ => hw.elim
  | .string s, _, _, rest, _, _, _, _, _ => by
    have hchars : chars (.string s) ++ rest =
        '"' :: (s.toList.flatMap escapeChar ++ '"' :: rest) := by
      simp [chars, stringChars]
    rw [hchars, scanValue, skipBlanks_cons rfl]
    simp only [scanString_stringChars, bind, Except.bind]
  | .array items, fuel, depth, rest, hw, hs, hf, hd, _ => by
    simp only [Json.depth] at hd
    obtain ⟨depth, rfl⟩ : ∃ d, depth = d + 1 := ⟨depth - 1, by omega⟩
    simp only [chars, List.length_cons] at hf
    have hitems : scanItems fuel depth true (itemChars items ++ rest) = .ok (items, rest) :=
      scanItems_chars items hw hs (by omega) (by omega)
    have hchars : chars (.array items) ++ rest = '[' :: (itemChars items ++ rest) := rfl
    rw [hchars, scanValue, skipBlanks_cons rfl]
    simp only [hitems, bind, Except.bind]
  | .object ms, fuel, depth, rest, hw, hs, hf, hd, _ => by
    simp only [Json.depth] at hd
    obtain ⟨depth, rfl⟩ : ∃ d, depth = d + 1 := ⟨depth - 1, by omega⟩
    simp only [chars, List.length_cons] at hf
    have hmembers : scanMembers fuel depth true (memberChars ms ++ rest) = .ok (ms, rest) :=
      scanMembers_chars ms hw hs.2 (by omega) (by omega)
    have hobject := scanValue_object hmembers
    rwa [ofMembers_of_increasing hs.1] at hobject

theorem scanItems_chars : ∀ (items : List Json) {fuel depth : Nat} {rest : List Char},
    WholeItems items → SortedItems items → (itemChars items).length ≤ fuel →
    depthItems items ≤ depth →
    scanItems fuel depth true (itemChars items ++ rest) = .ok (items, rest)
  | [], fuel, _, _, _, _, hf, _ => by
    obtain ⟨fuel, rfl⟩ : ∃ f, fuel = f + 1 := ⟨fuel - 1, by simp [itemChars] at hf; omega⟩
    rfl
  | v :: items, fuel, depth, rest, hw, hs, hf, hd => by
    have hv := chars_length_pos hw.1
    have htail := itemTail_length_pos items
    simp only [itemChars_cons, List.length_append] at hf
    simp only [depthItems] at hd
    obtain ⟨fuel, rfl⟩ : ∃ f, fuel = f + 2 := ⟨fuel - 2, by omega⟩
    rw [itemChars_cons, List.append_assoc]
    exact (scanItems_item hw.1
      (scanValue_chars v hw.1 hs.1 (by omega) (by omega) (closes_itemTail items rest))
      (scanItems_tail items hw.2 hs.2 (by omega) (by omega))).1

theorem scanItems_tail : ∀ (items : List Json) {fuel depth : Nat} {rest : List Char},
    WholeItems items → SortedItems items → (itemTail items).length ≤ fuel + 1 →
    depthItems items ≤ depth →
    scanItems (fuel + 1) depth false (itemTail items ++ rest) = .ok (items, rest)
  | [], _, _, _, _, _, _, _ => rfl
  | v :: items, fuel, depth, rest, hw, hs, hf, hd => by
    have hv := chars_length_pos hw.1
    have htail := itemTail_length_pos items
    simp only [itemTail, List.length_cons, List.length_append] at hf
    simp only [depthItems] at hd
    obtain ⟨fuel, rfl⟩ : ∃ f, fuel = f + 1 := ⟨fuel - 1, by omega⟩
    rw [itemTail, List.cons_append, List.append_assoc]
    exact (scanItems_item hw.1
      (scanValue_chars v hw.1 hs.1 (by omega) (by omega) (closes_itemTail items rest))
      (scanItems_tail items hw.2 hs.2 (by omega) (by omega))).2

theorem scanMembers_chars : ∀ (ms : List (String × Json)) {fuel depth : Nat} {rest : List Char},
    WholeMembers ms → SortedMembers ms → (memberChars ms).length ≤ fuel →
    depthMembers ms ≤ depth →
    scanMembers fuel depth true (memberChars ms ++ rest) = .ok (ms, rest)
  | [], fuel, _, _, _, _, hf, _ => by
    obtain ⟨fuel, rfl⟩ : ∃ f, fuel = f + 1 := ⟨fuel - 1, by simp [memberChars] at hf; omega⟩
    rfl
  | (k, v) :: ms, fuel, depth, rest, hw, hs, hf, hd => by
    have hv := chars_length_pos hw.1
    have htail := memberTail_length_pos ms
    simp only [memberChars_cons, stringChars, List.length_cons, List.length_append] at hf
    simp only [depthMembers] at hd
    obtain ⟨fuel, rfl⟩ : ∃ f, fuel = f + 3 := ⟨fuel - 3, by omega⟩
    rw [memberChars_cons, List.append_assoc, List.cons_append, List.append_assoc]
    exact (scanMembers_member
      (scanValue_chars v hw.1 hs.1 (by omega) (by omega) (closes_memberTail ms rest))
      (scanMembers_tail ms hw.2 hs.2 (by omega) (by omega))).1

theorem scanMembers_tail : ∀ (ms : List (String × Json)) {fuel depth : Nat} {rest : List Char},
    WholeMembers ms → SortedMembers ms → (memberTail ms).length ≤ fuel + 1 →
    depthMembers ms ≤ depth →
    scanMembers (fuel + 1) depth false (memberTail ms ++ rest) = .ok (ms, rest)
  | [], _, _, _, _, _, _, _ => rfl
  | (k, v) :: ms, fuel, depth, rest, hw, hs, hf, hd => by
    have hv := chars_length_pos hw.1
    have htail := memberTail_length_pos ms
    simp only [memberTail, stringChars, List.length_cons, List.length_append] at hf
    simp only [depthMembers] at hd
    obtain ⟨fuel, rfl⟩ : ∃ f, fuel = f + 2 := ⟨fuel - 2, by omega⟩
    rw [memberTail, List.cons_append, List.append_assoc, List.cons_append, List.append_assoc]
    exact (scanMembers_member
      (scanValue_chars v hw.1 hs.1 (by omega) (by omega) (closes_memberTail ms rest))
      (scanMembers_tail ms hw.2 hs.2 (by omega) (by omega))).2

end

theorem read_of_scan {v w : Json}
    (h : scanValue (2 * (chars v).length + 2) depthLimit (chars v) = .ok (w, [])) :
    Json.read v.text = .ok w := by
  have hdocument : scanDocument depthLimit v.text.toList = .ok w := by
    rw [text, String.toList_ofList, scanDocument, h]
    rfl
  rw [Json.read, readWithin, hdocument]

/-- The compact text of a value is read back as the value. -/
theorem read_text {v : Json} (hw : Whole v) (hs : Sorted v) (hd : v.depth ≤ depthLimit) :
    Json.read v.text = .ok v := by
  refine read_of_scan ?_
  have hscan : scanValue (2 * (chars v).length + 2) depthLimit (chars v ++ []) = .ok (v, []) :=
    scanValue_chars v hw hs (by omega) hd trivial
  rwa [List.append_nil] at hscan

/-! ### Members in any order -/

section Members

variable {ms : List (String × Json)}

theorem wholeMembers_iff : ∀ {ms : List (String × Json)}, WholeMembers ms ↔ ∀ m ∈ ms, m.2.Whole
  | [] => by simp [WholeMembers]
  | (k, v) :: ms => by rw [WholeMembers, wholeMembers_iff, List.forall_mem_cons]

theorem depthMembers_le_iff : ∀ {ms : List (String × Json)},
    depthMembers ms ≤ depth ↔ ∀ m ∈ ms, m.2.depth ≤ depth
  | [] => by simp [depthMembers]
  | (k, v) :: ms => by
    rw [depthMembers, Nat.max_le, depthMembers_le_iff, List.forall_mem_cons]

/-- The text of an object is read as the object, whatever the order of its members, and of those
with equal names the last counts. -/
theorem read_object (hw : WholeMembers ms) (hs : SortedMembers ms) (hd : depthMembers ms ≤ 126) :
    Json.read (Json.object ms).text = .ok (.object (ofMembers ms)) := by
  refine read_of_scan (scanValue_object ?_)
  have hscan : scanMembers (2 * (chars (.object ms)).length + 1) 126 true (memberChars ms ++ []) =
      .ok (ms, []) := by
    refine scanMembers_chars ms hw hs ?_ hd
    simp only [chars, List.length_cons]
    omega
  rwa [List.append_nil] at hscan

end Members

end Attest.Json
