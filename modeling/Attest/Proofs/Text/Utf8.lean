import Mathlib.Tactic.IntervalCases
import Attest.Text.Utf8

/-!
UTF-8 read back.

The bytes of a character begin with one that says how many follow; the range of the next one keeps
out what is no encoding of a character. So the bytes of a text are cut into its characters again
(`pieces_encode`), and bytes that are cut into characters alone are those of a text
(`eq_encode_of_pieces`): strict decoding gives a text exactly if the bytes are its encoding
(`decode_eq_ok_iff`). Only ASCII has as many bytes as characters (`ascii_of_length_encode`).
-/

namespace Attest.Text.Utf8

/-! ### Bytes of a character -/

/-- The byte by which a character is continued, with six of its bits. -/
def tail (n : Nat) : UInt8 := UInt8.ofNat (n % 64 + 0x80)

theorem tail_toNat (n : Nat) : (tail n).toNat = n % 64 + 0x80 := by
  rw [tail, UInt8.toNat_ofNat']
  omega

theorem tail_bits (n : Nat) : (tail n).toNat % 64 = n % 64 := by
  rw [tail_toNat]
  omega

section Tail

variable {p : Partial} {n : Nat} (hlow : p.low.toNat ≤ n % 64 + 0x80)
  (hhigh : n % 64 + 0x80 ≤ p.high.toNat) (rest : List UInt8)
include hlow hhigh

theorem tail_in_range : p.low ≤ tail n ∧ tail n ≤ p.high := by
  simp only [UInt8.le_iff_toNat_le, tail_toNat]
  exact ⟨hlow, hhigh⟩

/-- A byte in the range goes on with the character under way. -/
theorem pieces_more (hleft : p.left ≠ 1) :
    pieces (some p) (tail n :: rest) =
      pieces (some { code := p.code * 64 + n % 64, used := p.used + 1, left := p.left - 1 })
        rest := by
  simp only [pieces, if_pos (tail_in_range hlow hhigh), tail_bits, if_neg hleft]

/-- The last byte in the range ends it. -/
theorem pieces_last (hleft : p.left = 1) :
    pieces (some p) (tail n :: rest) =
      .char (Char.ofNat (p.code * 64 + n % 64)) :: pieces none rest := by
  simp only [pieces, if_pos (tail_in_range hlow hhigh), tail_bits, if_pos hleft]

end Tail

/-- The first bytes of characters with two, three and four bytes. -/
theorem lead_two {n : Nat} (h : 2 ≤ n) (h' : n < 32) :
    lead (UInt8.ofNat (n + 0xC0)) = .multi { code := n, used := 1, left := 1 } := by
  interval_cases n <;> rfl

theorem lead_three {n : Nat} (h : n < 16) :
    lead (UInt8.ofNat (n + 0xE0)) =
      .multi ⟨n, 1, 2, if n = 0 then 0xA0 else 0x80, if n = 0xD then 0x9F else 0xBF⟩ := by
  interval_cases n <;> rfl

theorem lead_four {n : Nat} (h : n < 5) :
    lead (UInt8.ofNat (n + 0xF0)) =
      .multi ⟨n, 1, 3, if n = 0 then 0x90 else 0x80, if n = 4 then 0x8F else 0xBF⟩ := by
  interval_cases n <;> rfl

theorem lead_one {n : Nat} (h : n < 0x80) : lead (UInt8.ofNat n) = .single (Char.ofNat n) := by
  have hn : (UInt8.ofNat n).toNat = n := by
    rw [UInt8.toNat_ofNat']
    omega
  have hlt : UInt8.ofNat n < 0x80 := by
    rw [UInt8.lt_iff_toNat_lt, hn]
    exact h
  rw [lead, if_pos hlt, hn]

/-! ### Characters -/

section Sizes

variable {v : Nat} (rest : List UInt8)

theorem pieces_one (h : v < 0x80) :
    pieces none (UInt8.ofNat v :: rest) = .char (Char.ofNat v) :: pieces none rest := by
  simp only [pieces, lead_one h]

theorem pieces_lead {b : UInt8} {p : Partial} (h : lead b = .multi p) :
    pieces none (b :: rest) = pieces (some p) rest := by
  simp only [pieces, h]

theorem pieces_two (h : 0x80 ≤ v) (h' : v < 0x800) :
    pieces none (UInt8.ofNat (v / 64 % 32 + 0xC0) :: tail v :: rest) =
      .char (Char.ofNat v) :: pieces none rest := by
  have hcode : v / 64 % 32 * 64 + v % 64 = v := by omega
  rw [pieces_lead _ (lead_two (by omega) (by omega)), pieces_last (by simp) (by simp; omega) _ rfl]
  simp only [hcode]

/-- The first two bytes of a character of three. -/
theorem pieces_second_three (h : 0x800 ≤ v) (h' : v < 0x10000) (hv : v < 0xD800 ∨ 0xDFFF < v) :
    pieces none (UInt8.ofNat (v / 4096 % 16 + 0xE0) :: tail (v / 64) :: rest) =
      pieces (some { code := v / 4096 % 16 * 64 + v / 64 % 64, used := 2, left := 1 }) rest := by
  refine (pieces_lead _ (lead_three (by omega))).trans (pieces_more ?_ ?_ _ (by simp))
  · dsimp only
    split <;> simp
    omega
  · dsimp only
    split <;> simp <;> omega

theorem pieces_three (h : 0x800 ≤ v) (h' : v < 0x10000) (hv : v < 0xD800 ∨ 0xDFFF < v) :
    pieces none (UInt8.ofNat (v / 4096 % 16 + 0xE0) :: tail (v / 64) :: tail v :: rest) =
      .char (Char.ofNat v) :: pieces none rest := by
  have hcode : (v / 4096 % 16 * 64 + v / 64 % 64) * 64 + v % 64 = v := by omega
  rw [pieces_second_three _ h h' hv, pieces_last (by simp) (by simp; omega) _ rfl]
  simp only [hcode]

/-- The first two bytes of a character of four. -/
theorem pieces_second_four (h : 0x10000 ≤ v) (h' : v < 0x110000) :
    pieces none (UInt8.ofNat (v / 262144 % 8 + 0xF0) :: tail (v / 4096) :: rest) =
      pieces (some { code := v / 262144 % 8 * 64 + v / 4096 % 64, used := 2, left := 2 }) rest := by
  refine (pieces_lead _ (lead_four (by omega))).trans (pieces_more ?_ ?_ _ (by simp))
  · dsimp only
    split <;> simp
    omega
  · dsimp only
    split <;> simp <;> omega

theorem pieces_four (h : 0x10000 ≤ v) (h' : v < 0x110000) :
    pieces none (UInt8.ofNat (v / 262144 % 8 + 0xF0) :: tail (v / 4096) :: tail (v / 64) ::
        tail v :: rest) =
      .char (Char.ofNat v) :: pieces none rest := by
  have hcode :
      ((v / 262144 % 8 * 64 + v / 4096 % 64) * 64 + v / 64 % 64) * 64 + v % 64 = v := by omega
  rw [pieces_second_four _ h h', pieces_more (by simp) (by simp; omega) _ (by simp),
    pieces_last (by simp) (by simp; omega) _ rfl]
  simp only [hcode]

end Sizes

/-- The bytes of a character are cut off as that character. -/
theorem pieces_encodeChar (c : Char) (rest : List UInt8) :
    pieces none (String.utf8EncodeChar c ++ rest) = .char c :: pieces none rest := by
  have hvalid : c.val.toNat < 0xD800 ∨ 0xDFFF < c.val.toNat ∧ c.val.toNat < 0x110000 := c.valid
  have hc : Char.ofNat c.val.toNat = c := Char.ofNat_toNat c
  rw [String.utf8EncodeChar]
  split
  · exact (pieces_one rest (by omega)).trans (by rw [hc])
  · split
    · exact (pieces_two rest (by omega) (by omega)).trans (by rw [hc])
    · split
      · exact (pieces_three rest (by omega) (by omega) (by omega)).trans (by rw [hc])
      · exact (pieces_four rest (by omega) (by omega)).trans (by rw [hc])

/-! ### Texts -/

/-- The bytes of characters are cut into them. -/
theorem pieces_encode : ∀ cs : List Char, pieces none (encode cs) = cs.map .char
  | [] => rfl
  | c :: rest => by
    rw [encode, List.flatMap_cons, pieces_encodeChar, List.map_cons, ← pieces_encode rest]
    rfl

theorem collect_chars : ∀ (cs : List Char) (index : Nat), collect index (cs.map .char) = .ok cs
  | [], _ => rfl
  | c :: rest, index => by
    rw [List.map_cons, collect, collect_chars rest]
    rfl

/-- Decoding gives the text whose encoding the bytes are. -/
theorem decode_encodeString (s : String) : decode (encodeString s) = .ok s := by
  rw [decode, encodeString, pieces_encode, collect_chars]
  exact congrArg Except.ok (String.ofList_toList)

/-! ### Nothing but texts is decoded -/

section Spellings

variable {v : Nat}

theorem val_ofNat (h : v.isValidChar) : (Char.ofNat v).val.toNat = v := by
  unfold Char.ofNat
  rw [dif_pos h]
  rfl

theorem encodeChar_one (h : v < 0x80) :
    String.utf8EncodeChar (Char.ofNat v) = [UInt8.ofNat v] := by
  simp only [String.utf8EncodeChar, val_ofNat (v := v) (.inl (by omega))]
  rw [if_pos (by omega)]

theorem encodeChar_two (h : 0x80 ≤ v) (h' : v < 0x800) :
    String.utf8EncodeChar (Char.ofNat v) = [UInt8.ofNat (v / 64 % 32 + 0xC0), tail v] := by
  simp only [String.utf8EncodeChar, val_ofNat (v := v) (.inl (by omega))]
  rw [if_neg (by omega), if_pos (by omega)]
  rfl

theorem encodeChar_three (h : 0x800 ≤ v) (h' : v < 0x10000) (hv : v.isValidChar) :
    String.utf8EncodeChar (Char.ofNat v) =
      [UInt8.ofNat (v / 4096 % 16 + 0xE0), tail (v / 64), tail v] := by
  simp only [String.utf8EncodeChar, val_ofNat hv]
  rw [if_neg (by omega), if_neg (by omega), if_pos (by omega)]
  rfl

theorem encodeChar_four (h : 0x10000 ≤ v) (h' : v < 0x110000) :
    String.utf8EncodeChar (Char.ofNat v) =
      [UInt8.ofNat (v / 262144 % 8 + 0xF0), tail (v / 4096), tail (v / 64), tail v] := by
  simp only [String.utf8EncodeChar, val_ofNat (v := v) (.inr (by omega))]
  rw [if_neg (by omega), if_neg (by omega), if_neg (by omega)]
  rfl

end Spellings

/-- A byte with which a character goes on is told by its six bits. -/
theorem eq_tail {b : UInt8} {n : Nat} (hlow : 0x80 ≤ b.toNat) (hhigh : b.toNat ≤ 0xBF)
    (hn : n % 64 = b.toNat % 64) : b = tail n := by
  apply UInt8.toNat_inj.mp
  rw [tail_toNat]
  omega

/-- The first byte of a character of several bytes, and where the next one must lie. -/
theorem lead_multi {b : UInt8} {p : Partial} (h : lead b = .multi p) :
    (∃ n, 2 ≤ n ∧ n < 32 ∧ b = UInt8.ofNat (n + 0xC0) ∧ p = ⟨n, 1, 1, 0x80, 0xBF⟩) ∨
    (∃ n, n < 16 ∧ b = UInt8.ofNat (n + 0xE0) ∧
      p = ⟨n, 1, 2, if n = 0 then 0xA0 else 0x80, if n = 0xD then 0x9F else 0xBF⟩) ∨
    ∃ n, n < 5 ∧ b = UInt8.ofNat (n + 0xF0) ∧
      p = ⟨n, 1, 3, if n = 0 then 0x90 else 0x80, if n = 4 then 0x8F else 0xBF⟩ := by
  have hlt := b.toNat_lt
  have hb (n : Nat) (hn : b.toNat = n) : b = UInt8.ofNat n := by rw [← hn, UInt8.ofNat_toNat]
  by_cases htwo : b.toNat < 0xE0
  · by_cases hone : b.toNat < 0xC2
    · -- a character of one byte, or none at all
      rw [lead] at h
      split at h
      · cases h
      · rw [if_pos (by rwa [UInt8.lt_iff_toNat_lt])] at h
        cases h
    · obtain ⟨n, hn⟩ := Nat.exists_eq_add_of_le' (show 0xC0 ≤ b.toNat by omega)
      rw [hb _ hn, lead_two (by omega) (by omega)] at h
      exact .inl ⟨n, by omega, by omega, hb _ hn, (Lead.multi.inj h).symm⟩
  by_cases hthree : b.toNat < 0xF0
  · obtain ⟨n, hn⟩ := Nat.exists_eq_add_of_le' (show 0xE0 ≤ b.toNat by omega)
    rw [hb _ hn, lead_three (by omega)] at h
    exact .inr (.inl ⟨n, by omega, hb _ hn, (Lead.multi.inj h).symm⟩)
  obtain ⟨n, hn⟩ := Nat.exists_eq_add_of_le' (show 0xF0 ≤ b.toNat by omega)
  rw [hb _ hn] at h
  by_cases hfour : n < 5
  · rw [lead_four hfour] at h
    exact .inr (.inr ⟨n, hfour, hb _ hn, (Lead.multi.inj h).symm⟩)
  · -- past the last code point
    have hn' : n < 16 := by omega
    interval_cases n <;> cases h

theorem lead_single {b : UInt8} {c : Char} (h : lead b = .single c) :
    String.utf8EncodeChar c = [b] := by
  rw [lead] at h
  split at h
  next hb =>
    cases h
    rw [UInt8.lt_iff_toNat_lt] at hb
    rw [encodeChar_one hb, UInt8.ofNat_toNat]
  next =>
    repeat' split at h
    all_goals cases h

theorem pieces_some_ne_nil : ∀ (bytes : List UInt8) (p : Partial), pieces (some p) bytes ≠ []
  | [], _ => by simp [pieces]
  | b :: rest, p => by
    rw [pieces]
    split
    · dsimp only
      split
      · simp
      · exact pieces_some_ne_nil rest _
    · simp

theorem eq_nil_of_pieces {bytes : List UInt8} (h : pieces none bytes = []) : bytes = [] := by
  cases bytes with
  | nil => rfl
  | cons b rest =>
    rw [pieces] at h
    split at h
    · cases h
    · exact absurd h (pieces_some_ne_nil rest _)
    · cases h

section Endings

variable {code used left : Nat} {low high : UInt8} {bytes : List UInt8} {c : Char}
  {ps : List Piece}

/-- A character under way that comes to its end goes on with a byte of its range. -/
theorem pieces_some_char (h : pieces (some ⟨code, used, left, low, high⟩) bytes = .char c :: ps) :
    ∃ b rest, bytes = b :: rest ∧ low.toNat ≤ b.toNat ∧ b.toNat ≤ high.toNat ∧
      if left = 1 then c = Char.ofNat (code * 64 + b.toNat % 64) ∧ ps = pieces none rest
      else
        pieces (some ⟨code * 64 + b.toNat % 64, used + 1, left - 1, 0x80, 0xBF⟩) rest =
          .char c :: ps := by
  cases bytes with
  | nil => simp [pieces] at h
  | cons b rest =>
    rw [pieces] at h
    split at h
    next hrange =>
      simp only [UInt8.le_iff_toNat_le] at hrange
      refine ⟨b, rest, rfl, hrange.1, hrange.2, ?_⟩
      dsimp only at h
      split at h
      next hleft =>
        cases h
        exact (if_pos hleft).mpr ⟨rfl, rfl⟩
      next hleft => exact (if_neg hleft).mpr h
    next => cases h

theorem pieces_end_two {n : Nat} (hn : 2 ≤ n) (hn' : n < 32)
    (h : pieces (some ⟨n, 1, 1, 0x80, 0xBF⟩) bytes = .char c :: ps) :
    ∃ rest, UInt8.ofNat (n + 0xC0) :: bytes = String.utf8EncodeChar c ++ rest ∧
      ps = pieces none rest := by
  obtain ⟨x, rest, rfl, hx, hx', rfl, rfl⟩ := pieces_some_char h
  have hlead : (n * 64 + x.toNat % 64) / 64 % 32 = n := by omega
  refine ⟨rest, ?_, rfl⟩
  rw [encodeChar_two (by omega) (by omega), hlead, ← eq_tail hx hx' (by omega)]
  rfl

/-- The range of the second byte keeps out codes that have a shorter spelling, and surrogates. -/
theorem pieces_end_three {n : Nat} (hn : n < 16)
    (h : pieces (some ⟨n, 1, 2, if n = 0 then 0xA0 else 0x80, if n = 0xD then 0x9F else 0xBF⟩)
      bytes = .char c :: ps) :
    ∃ rest, UInt8.ofNat (n + 0xE0) :: bytes = String.utf8EncodeChar c ++ rest ∧
      ps = pieces none rest := by
  obtain ⟨x, rest, rfl, hx, hx', h⟩ := pieces_some_char h
  obtain ⟨y, rest, rfl, hy, hy', rfl, rfl⟩ := pieces_some_char h
  have hlow : (n = 0 → 0xA0 ≤ x.toNat) ∧ 0x80 ≤ x.toNat := by
    split at hx <;> simp at hx <;> omega
  have hhigh : (n = 0xD → x.toNat ≤ 0x9F) ∧ x.toNat ≤ 0xBF := by
    split at hx' <;> simp at hx' <;> omega
  have hvalid : ((n * 64 + x.toNat % 64) * 64 + y.toNat % 64).isValidChar := by
    unfold Nat.isValidChar
    omega
  have hlead : ((n * 64 + x.toNat % 64) * 64 + y.toNat % 64) / 4096 % 16 = n := by omega
  refine ⟨rest, ?_, rfl⟩
  rw [encodeChar_three (by omega) (by omega) hvalid, hlead,
    ← eq_tail hlow.2 hhigh.2 (by omega), ← eq_tail hy hy' (by omega)]
  rfl

/-- Here it keeps out codes that have a shorter spelling, and those past the last. -/
theorem pieces_end_four {n : Nat} (hn : n < 5)
    (h : pieces (some ⟨n, 1, 3, if n = 0 then 0x90 else 0x80, if n = 4 then 0x8F else 0xBF⟩)
      bytes = .char c :: ps) :
    ∃ rest, UInt8.ofNat (n + 0xF0) :: bytes = String.utf8EncodeChar c ++ rest ∧
      ps = pieces none rest := by
  obtain ⟨x, rest, rfl, hx, hx', h⟩ := pieces_some_char h
  obtain ⟨y, rest, rfl, hy, hy', h⟩ := pieces_some_char h
  obtain ⟨z, rest, rfl, hz, hz', rfl, rfl⟩ := pieces_some_char h
  have hlow : (n = 0 → 0x90 ≤ x.toNat) ∧ 0x80 ≤ x.toNat := by
    split at hx <;> simp at hx <;> omega
  have hhigh : (n = 4 → x.toNat ≤ 0x8F) ∧ x.toNat ≤ 0xBF := by
    split at hx' <;> simp at hx' <;> omega
  have hlead : (((n * 64 + x.toNat % 64) * 64 + y.toNat % 64) * 64 + z.toNat % 64) / 262144 % 8 =
      n := by omega
  refine ⟨rest, ?_, rfl⟩
  rw [encodeChar_four (by omega) (by omega), hlead, ← eq_tail hlow.2 hhigh.2 (by omega),
    ← eq_tail hy hy' (by omega), ← eq_tail hz hz' (by omega)]
  rfl

end Endings

/-- Bytes of which a character is cut off begin with its spelling. -/
theorem eq_encodeChar_append {bytes : List UInt8} {c : Char} {ps : List Piece}
    (h : pieces none bytes = .char c :: ps) :
    ∃ rest, bytes = String.utf8EncodeChar c ++ rest ∧ ps = pieces none rest := by
  cases bytes with
  | nil => cases h
  | cons b rest =>
    rw [pieces] at h
    split at h
    next c' hlead =>
      cases h
      exact ⟨rest, by rw [lead_single hlead]; rfl, rfl⟩
    next p hlead =>
      rcases lead_multi hlead with ⟨n, hn, hn', rfl, rfl⟩ | ⟨n, hn, rfl, rfl⟩ | ⟨n, hn, rfl, rfl⟩
      · exact pieces_end_two hn hn' h
      · exact pieces_end_three hn h
      · exact pieces_end_four hn h
    next => cases h

/-- Bytes that are cut into characters alone are their encoding. -/
theorem eq_encode_of_pieces : ∀ {cs : List Char} {bytes : List UInt8},
    pieces none bytes = cs.map .char → bytes = encode cs
  | [], _, h => eq_nil_of_pieces h
  | c :: cs, _, h => by
    obtain ⟨rest, rfl, hrest⟩ := eq_encodeChar_append h
    rw [eq_encode_of_pieces hrest.symm, encode, encode, List.flatMap_cons]

theorem eq_chars_of_collect : ∀ {ps : List Piece} {index : Nat} {cs : List Char},
    collect index ps = .ok cs → ps = cs.map .char
  | [], _, cs, h => by
    cases h
    rfl
  | .char c :: ps, index, cs, h => by
    rw [collect] at h
    cases hps : collect (index + c.utf8Size) ps with
    | error e => rw [hps] at h; cases h
    | ok cs' =>
      rw [hps] at h
      cases h
      rw [List.map_cons, ← eq_chars_of_collect hps]
  | .malformed _ :: _, _, _, h => by cases h
  | .truncated _ :: _, _, _, h => by cases h

/-- Decoding gives a text if the bytes are its encoding, and fails if they are that of none. -/
theorem decode_eq_ok_iff {bytes : List UInt8} {s : String} :
    decode bytes = .ok s ↔ bytes = encodeString s := by
  constructor
  · intro h
    rw [decode] at h
    cases hcs : collect 0 (pieces none bytes) with
    | error e => rw [hcs] at h; cases h
    | ok cs =>
      rw [hcs] at h
      cases h
      rw [encodeString, String.toList_ofList]
      exact eq_encode_of_pieces (eq_chars_of_collect hcs)
  · rintro rfl
    exact decode_encodeString s

/-! ### ASCII -/

/-- ASCII bytes are the characters with these codes. -/
theorem encode_ascii : ∀ {bytes : List UInt8}, (∀ b ∈ bytes, b < 0x80) →
    encode (bytes.map fun b => Char.ofNat b.toNat) = bytes
  | [], _ => rfl
  | b :: bytes, h => by
    obtain ⟨hb, hbytes⟩ := List.forall_mem_cons.mp h
    rw [UInt8.lt_iff_toNat_lt] at hb
    rw [List.map_cons, encode, List.flatMap_cons, encodeChar_one hb, UInt8.ofNat_toNat]
    exact congrArg (b :: ·) (encode_ascii hbytes)

theorem length_encode_cons (c : Char) (cs : List Char) :
    (encode (c :: cs)).length = c.utf8Size + (encode cs).length := by
  rw [encode, List.flatMap_cons, List.length_append, String.length_utf8EncodeChar, encode]

theorem length_le_encode : ∀ cs : List Char, cs.length ≤ (encode cs).length
  | [] => Nat.le_refl 0
  | c :: cs => by
    have hc := c.utf8Size_pos
    have hcs := length_le_encode cs
    rw [length_encode_cons, List.length_cons]
    omega

/-- With no more bytes than characters, each character is of one byte. -/
theorem ascii_of_length_encode : ∀ {cs : List Char}, (encode cs).length = cs.length →
    ∀ c ∈ cs, c.toNat < 0x80
  | [], _ => fun _ h => by cases h
  | c :: cs, h => by
    have hc := c.utf8Size_pos
    have hcs := length_le_encode cs
    rw [length_encode_cons, List.length_cons] at h
    have hone : c.utf8Size = 1 := by omega
    have hsmall : c.toNat ≤ 127 := Char.utf8Size_eq_one_iff.mp hone
    exact List.forall_mem_cons.mpr ⟨by omega, ascii_of_length_encode (by omega)⟩

/-- Characters are as many as their bytes exactly if each is of one byte. -/
theorem length_encode_eq_iff {cs : List Char} :
    (encode cs).length = cs.length ↔ ∀ c ∈ cs, c.toNat < 0x80 := by
  refine ⟨ascii_of_length_encode, fun h => ?_⟩
  induction cs with
  | nil => rfl
  | cons c cs ih =>
    obtain ⟨hc, hcs⟩ := List.forall_mem_cons.mp h
    have hone : c.utf8Size = 1 := Char.utf8Size_eq_one_iff.mpr (Nat.le_of_lt_succ hc)
    rw [length_encode_cons, ih hcs, hone, List.length_cons, Nat.add_comm]

end Attest.Text.Utf8
