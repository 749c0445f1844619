import Attest.Proofs.Text.Bytewise

/-!
Texts cut after some of their bytes.

The place of the cut lies between two characters, inside one, or beyond the last. Decoding what is
left gives the characters before the place, and inside a character the replacement character too
(`decodeLossy_take`): of the bytes that are left of a character none begins another
(`pieces_begun`).
-/

namespace Attest.Text.Utf8

/-- What is left to see of the characters when their bytes are cut after the first `n`. -/
inductive Cut (cs : List Char) (n : Nat) : List Char → Prop
  | between {before after : List Char} (hcs : cs = before ++ after)
      (hn : n = (encode before).length) : Cut cs n before
  | inside {before after : List Char} {c : Char} (hcs : cs = before ++ c :: after)
      (hlow : (encode before).length < n) (hhigh : n < (encode before).length + c.utf8Size) :
      Cut cs n (before ++ ['\uFFFD'])
  | beyond (hn : (encode cs).length < n) : Cut cs n cs

/-! ### Every place is one of these -/

section Places

variable {cs shown : List Char} {n : Nat}

theorem Cut.cons (c : Char) (h : Cut cs n shown) : Cut (c :: cs) (c.utf8Size + n) (c :: shown) := by
  cases h with
  | between hcs hn =>
    refine .between (congrArg (c :: ·) hcs) ?_
    rw [length_encode_cons, hn]
  | inside hcs hlow hhigh =>
    rw [hcs]
    refine .inside (List.cons_append ..).symm ?_ ?_ <;> rw [length_encode_cons] <;> omega
  | beyond hn =>
    refine .beyond ?_
    rw [length_encode_cons]
    omega

/-- By going past the characters for which there are bytes enough. -/
theorem exists_cut (cs : List Char) (n : Nat) : ∃ shown, Cut cs n shown := by
  induction cs generalizing n with
  | nil =>
    cases n with
    | zero => exact ⟨[], .between rfl rfl⟩
    | succ n => exact ⟨[], .beyond n.succ_pos⟩
  | cons c cs ih =>
    rcases Nat.eq_zero_or_pos n with rfl | hpos
    · exact ⟨[], .between rfl rfl⟩
    · by_cases hsize : n < c.utf8Size
      · have hhigh : n < (encode []).length + c.utf8Size := by simpa [encode] using hsize
        exact ⟨['\uFFFD'], .inside rfl hpos hhigh⟩
      · obtain ⟨m, rfl⟩ := Nat.exists_eq_add_of_le (Nat.le_of_not_lt hsize)
        obtain ⟨shown, hshown⟩ := ih m
        exact ⟨c :: shown, hshown.cons c⟩

/-- What is seen at some place stands there, unless it is the last and the cut lies inside a
character. -/
theorem Cut.seen (h : Cut cs n shown) (i : Nat) (d : Char) (hd : shown[i]? = some d) :
    cs[i]? = some d ∨ i + 1 = shown.length ∧ d = '\uFFFD' ∧
      ∃ before c after, cs = before ++ c :: after ∧ (encode before).length < n ∧
        n < (encode before).length + c.utf8Size := by
  obtain ⟨hi, -⟩ := List.getElem?_eq_some_iff.mp hd
  cases h with
  | between hcs hn =>
    left
    rwa [hcs, List.getElem?_append_left hi]
  | beyond hn => exact .inl hd
  | @inside before after c hcs hlow hhigh =>
    rcases Nat.lt_or_ge i before.length with hbefore | hlast
    · left
      rw [List.getElem?_append_left hbefore] at hd
      rwa [hcs, List.getElem?_append_left hbefore]
    · right
      have hplace : i = before.length := by
        simp only [List.length_append, List.length_singleton] at hi
        omega
      subst hplace
      exact ⟨by simp, by simpa [eq_comm] using hd, before, c, after, hcs, hlow, hhigh⟩

end Places

/-! ### Decoding what is left -/

section Begun

variable {v k : Nat}

theorem pieces_begun_two (h : 0x80 ≤ v) (h' : v < 0x800) (hpos : 0 < k) (hk : k < 2) :
    pieces none ([UInt8.ofNat (v / 64 % 32 + 0xC0), tail v].take k) = [.truncated k] := by
  obtain rfl : k = 1 := by omega
  exact pieces_lead _ (lead_two (by omega) (by omega))

theorem pieces_begun_three (h : 0x800 ≤ v) (h' : v < 0x10000) (hv : v < 0xD800 ∨ 0xDFFF < v)
    (hpos : 0 < k) (hk : k < 3) :
    pieces none ([UInt8.ofNat (v / 4096 % 16 + 0xE0), tail (v / 64), tail v].take k) =
      [.truncated k] := by
  interval_cases k
  · exact pieces_lead _ (lead_three (by omega))
  · exact pieces_second_three _ h h' hv

theorem pieces_begun_four (h : 0x10000 ≤ v) (h' : v < 0x110000) (hpos : 0 < k) (hk : k < 4) :
    pieces none ([UInt8.ofNat (v / 262144 % 8 + 0xF0), tail (v / 4096), tail (v / 64),
      tail v].take k) = [.truncated k] := by
  interval_cases k
  · exact pieces_lead _ (lead_four (by omega))
  · exact pieces_second_four _ h h'
  · exact (pieces_second_four _ h h').trans (pieces_more (by simp) (by simp; omega) _ (by simp))

end Begun

/-- The bytes that are left of a character make no other one. -/
theorem pieces_begun (c : Char) {k : Nat} (hpos : 0 < k) (hk : k < c.utf8Size) :
    pieces none ((String.utf8EncodeChar c).take k) = [.truncated k] := by
  obtain ⟨v, hv, rfl⟩ : ∃ v : Nat, v.isValidChar ∧ c = Char.ofNat v :=
    ⟨c.toNat, c.valid, (Char.ofNat_toNat c).symm⟩
  have hvalid : v < 0xD800 ∨ 0xDFFF < v ∧ v < 0x110000 := hv
  rw [← String.length_utf8EncodeChar] at hk
  by_cases hone : v < 0x80
  · rw [encodeChar_one hone] at hk
    exact absurd hk (Nat.not_lt_of_le hpos)
  by_cases htwo : v < 0x800
  · rw [encodeChar_two (by omega) htwo] at hk ⊢
    exact pieces_begun_two (by omega) htwo hpos hk
  by_cases hthree : v < 0x10000
  · rw [encodeChar_three (by omega) hthree hv] at hk ⊢
    exact pieces_begun_three (by omega) hthree (by omega) hpos hk
  · rw [encodeChar_four (by omega) (by omega)] at hk ⊢
    exact pieces_begun_four (by omega) (by omega) hpos hk

/-- Characters are cut off before anything that follows them. -/
theorem pieces_encode_append (bytes : List UInt8) : ∀ cs : List Char,
    pieces none (encode cs ++ bytes) = cs.map .char ++ pieces none bytes
  | [] => rfl
  | c :: cs => by
    rw [encode_cons, List.append_assoc, pieces_encodeChar, pieces_encode_append bytes cs,
      List.map_cons, List.cons_append]

theorem map_display_char (cs : List Char) : (cs.map .char).map Piece.display = cs := by
  induction cs with
  | nil => rfl
  | cons c cs ih => exact congrArg (c :: ·) ih

/-- Lossy decoding of what is left shows the characters before the cut, and that there is something
after them where it lies inside a character. -/
theorem decodeLossy_take {cs shown : List Char} {n : Nat} (h : Cut cs n shown) :
    decodeLossy ((encode cs).take n) = String.ofList shown := by
  unfold decodeLossy
  congr 1
  cases h with
  | between hcs hn =>
    rw [hcs, hn, encode_append, List.take_left, pieces_encode, map_display_char]
  | beyond hn =>
    rw [List.take_of_length_le (Nat.le_of_lt hn), pieces_encode, map_display_char]
  | @inside before after c hcs hlow hhigh =>
    obtain ⟨k, rfl⟩ := Nat.exists_eq_add_of_lt hlow
    have hk : k + 1 < c.utf8Size := by omega
    have htake : (encode cs).take ((encode before).length + k + 1) =
        encode before ++ (String.utf8EncodeChar c).take (k + 1) := by
      rw [hcs, encode_append, encode_cons, Nat.add_assoc, List.take_length_add_append,
        List.take_append_of_le_length (by rw [String.length_utf8EncodeChar]; omega)]
    rw [htake, pieces_encode_append, pieces_begun c k.succ_pos hk, List.map_append,
      map_display_char]
    rfl

/-- The place of the cut says what is seen. -/
theorem Cut.unique {cs shown shown' : List Char} {n : Nat} (h : Cut cs n shown)
    (h' : Cut cs n shown') : shown = shown' := by
  have hsame : String.ofList shown = String.ofList shown' :=
    (decodeLossy_take h).symm.trans (decodeLossy_take h')
  exact String.ofList_injective hsame

end Attest.Text.Utf8
