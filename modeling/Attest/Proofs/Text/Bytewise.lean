import Attest.Proofs.Text.Utf8
import Attest.Text.Case

/-!
Texts and their bytes.

A byte that begins a character never goes on with one. So bytes of a text that are those of another
text are found where this text occurs, and nowhere else (`encode_infix_iff`). The first byte also
says how long the character is, the longer the greater, so texts stand in the order of their bytes
(`encodeString_lt_iff`).
-/

namespace Attest.Text

/-- What begins at some place of a list is a stretch of it. -/
theorem containsList_iff_infix {α : Type} [BEq α] [LawfulBEq α] {needle : List α} :
    ∀ {l : List α}, containsList needle l = true ↔ needle <:+: l
  | [] => by simp [containsList]
  | a :: l => by
    rw [containsList, Bool.or_eq_true, List.isPrefixOf_iff_prefix, containsList_iff_infix,
      List.infix_cons_iff]

namespace Utf8

theorem encode_cons (c : Char) (cs : List Char) :
    encode (c :: cs) = String.utf8EncodeChar c ++ encode cs := List.flatMap_cons

theorem encode_append (s t : List Char) : encode (s ++ t) = encode s ++ encode t :=
  List.flatMap_append

theorem encodeString_injective {s t : String} (h : encodeString s = encodeString t) : s = t := by
  have hdecode := decode_encodeString s
  rw [h, decode_encodeString t] at hdecode
  exact (Except.ok.inj hdecode).symm

/-! ### Search -/

/-- The first byte of a character, and the others, with which no character begins. -/
theorem exists_encodeChar (c : Char) :
    ∃ b bs, String.utf8EncodeChar c = b :: bs ∧ b.IsUTF8FirstByte ∧
      ∀ x ∈ bs, ¬ x.IsUTF8FirstByte := by
  obtain ⟨b, bs, hc⟩ := List.exists_cons_of_ne_nil (String.utf8EncodeChar_ne_nil (c := c))
  have hfirst (i : Nat) (hi : i < (b :: bs).length) :
      (b :: bs)[i].IsUTF8FirstByte ↔ i = 0 := by
    have h := @UInt8.isUTF8FirstByte_getElem_utf8EncodeChar c i (by rwa [hc])
    simpa only [hc] using h
  refine ⟨b, bs, hc, (hfirst 0 (by simp)).mpr rfl, fun x hx => ?_⟩
  obtain ⟨i, hi, rfl⟩ := List.getElem_of_mem hx
  have hlater := hfirst (i + 1) (by simpa using hi)
  simpa using hlater

/-- Bytes of a text that begin with those of another one begin with its characters. -/
theorem begins_of_encode : ∀ {n s : List Char}, encode n <+: encode s → n <+: s
  | [], s, _ => List.nil_prefix
  | c :: n, s, ⟨rest, h⟩ => by
    have hpieces : .char c :: pieces none (encode n ++ rest) = s.map Piece.char := by
      rw [← pieces_encode s, ← h, encode_cons, List.append_assoc, pieces_encodeChar]
    cases s with
    | nil => cases hpieces
    | cons d s =>
      rw [List.map_cons, List.cons.injEq, Piece.char.injEq] at hpieces
      obtain ⟨rfl, hrest⟩ := hpieces
      have hprefix : encode n <+: encode s := ⟨rest, eq_encode_of_pieces hrest⟩
      obtain ⟨more, rfl⟩ := begins_of_encode hprefix
      exact ⟨more, rfl⟩

/-- The bytes of a text are found among those of another one where it occurs as a whole: a place
within a character is none where a character begins. -/
theorem infix_of_encode : ∀ {n s : List Char} {before after : List UInt8}, n ≠ [] →
    before ++ encode n ++ after = encode s → n <:+: s
  | n, [], before, after, hn, h => by
    obtain ⟨c, n, rfl⟩ := List.exists_cons_of_ne_nil hn
    obtain ⟨b, bs, hc, -⟩ := exists_encodeChar c
    simp [hc, encode] at h
  | n, d :: s, [], after, _, h => (begins_of_encode ⟨after, h⟩).isInfix
  | n, d :: s, x :: before, after, hn, h => by
    obtain ⟨b, bs, hd, -, hlater⟩ := exists_encodeChar d
    rw [encode_cons, hd, List.append_assoc, List.cons_append, List.cons_append,
      List.cons.injEq] at h
    -- what stands before the bytes ends in the first character, or goes beyond it
    rcases List.append_eq_append_iff.mp h.2 with ⟨inside, hbs, hn'⟩ | ⟨beyond, rfl, hrest⟩
    · cases inside with
      | nil => exact (@infix_of_encode n s [] after hn hn').trans (List.infix_cons List.infix_rfl)
      | cons y inside =>
        obtain ⟨c, n, rfl⟩ := List.exists_cons_of_ne_nil hn
        obtain ⟨b', bs', hc, hfirst, -⟩ := exists_encodeChar c
        rw [encode_cons, hc, List.cons_append, List.cons_append, List.cons_append,
          List.cons.injEq] at hn'
        obtain ⟨rfl, -⟩ := hn'
        exact absurd hfirst (hlater b' (by rw [hbs]; simp))
    · have hs : n <:+: s := infix_of_encode hn (by rw [List.append_assoc]; exact hrest.symm)
      exact hs.trans (List.infix_cons List.infix_rfl)

theorem encode_infix_iff {n s : List Char} : encode n <:+: encode s ↔ n <:+: s := by
  constructor
  · rintro ⟨before, after, h⟩
    by_cases hn : n = []
    · exact hn ▸ List.nil_infix
    · exact infix_of_encode hn h
  · rintro ⟨s₁, s₂, rfl⟩
    rw [encode_append, encode_append]
    exact ⟨encode s₁, encode s₂, rfl⟩

/-! ### Order -/

/-- Bytes for each number below a bound, in the order of the numbers whatever follows them. -/
def InOrder (spell : Nat → List UInt8) (bound : Nat) : Prop :=
  ∀ m n, m < n → n < bound → ∀ x y, spell m ++ x < spell n ++ y

section InOrder

variable {spell : Nat → List UInt8} {bound : Nat}

theorem inOrder_single (base : Nat) (h : bound + base ≤ 256) :
    InOrder (fun n => [UInt8.ofNat (n + base)]) bound := by
  intro m n hmn hn x y
  refine List.cons_lt_cons_iff.mpr (.inl ?_)
  rw [UInt8.lt_iff_toNat_lt, UInt8.toNat_ofNat', UInt8.toNat_ofNat']
  omega

/-- So it is with six more bits in one more byte. -/
theorem InOrder.tail (h : InOrder spell bound) :
    InOrder (fun n => spell (n / 64) ++ [tail n]) (bound * 64) := by
  intro m n hmn hn x y
  rw [List.append_assoc, List.append_assoc]
  by_cases hlead : m / 64 < n / 64
  · exact h _ _ hlead (by omega) _ _
  · have hsame : m / 64 = n / 64 := by omega
    rw [hsame]
    refine List.append_left_lt (List.cons_lt_cons_iff.mpr (.inl ?_))
    rw [UInt8.lt_iff_toNat_lt, tail_toNat, tail_toNat]
    omega

end InOrder

section Spellings

variable {c : Char}

theorem spelling_one (h : c.toNat < 0x80) : String.utf8EncodeChar c = [UInt8.ofNat c.toNat] := by
  have hc := encodeChar_one h
  rwa [Char.ofNat_toNat] at hc

theorem spelling_two (h : 0x80 ≤ c.toNat) (h' : c.toNat < 0x800) :
    String.utf8EncodeChar c = [UInt8.ofNat (c.toNat / 64 + 0xC0), tail c.toNat] := by
  have hc := encodeChar_two h h'
  rwa [Char.ofNat_toNat, show c.toNat / 64 % 32 = c.toNat / 64 by omega] at hc

theorem spelling_three (h : 0x800 ≤ c.toNat) (h' : c.toNat < 0x10000) :
    String.utf8EncodeChar c =
      [UInt8.ofNat (c.toNat / 64 / 64 + 0xE0), tail (c.toNat / 64), tail c.toNat] := by
  have hc := encodeChar_three h h' c.valid
  rwa [Char.ofNat_toNat, show c.toNat / 4096 % 16 = c.toNat / 64 / 64 by omega] at hc

theorem toNat_lt (c : Char) : c.toNat < 0x110000 := by
  have hvalid : c.toNat < 0xD800 ∨ 0xDFFF < c.toNat ∧ c.toNat < 0x110000 := c.valid
  omega

theorem spelling_four (h : 0x10000 ≤ c.toNat) :
    String.utf8EncodeChar c = [UInt8.ofNat (c.toNat / 64 / 64 / 64 + 0xF0),
      tail (c.toNat / 64 / 64), tail (c.toNat / 64), tail c.toNat] := by
  have hc := encodeChar_four h (toNat_lt c)
  rwa [Char.ofNat_toNat,
    show c.toNat / 262144 % 8 = c.toNat / 64 / 64 / 64 by have := toNat_lt c; omega,
    show c.toNat / 4096 = c.toNat / 64 / 64 by omega] at hc

/-- The first byte grows with the length of the character. -/
theorem exists_lead (c : Char) : ∃ b bs, String.utf8EncodeChar c = b :: bs ∧
    (c.toNat < 0x80 ↔ b.toNat < 0x80) ∧ (c.toNat < 0x800 ↔ b.toNat < 0xE0) ∧
    (c.toNat < 0x10000 ↔ b.toNat < 0xF0) := by
  have hlt := toNat_lt c
  by_cases hone : c.toNat < 0x80
  · refine ⟨_, _, spelling_one hone, ?_⟩
    rw [UInt8.toNat_ofNat']
    omega
  by_cases htwo : c.toNat < 0x800
  · refine ⟨_, _, spelling_two (by omega) htwo, ?_⟩
    rw [UInt8.toNat_ofNat']
    omega
  by_cases hthree : c.toNat < 0x10000
  · refine ⟨_, _, spelling_three (by omega) hthree, ?_⟩
    rw [UInt8.toNat_ofNat']
    omega
  · refine ⟨_, _, spelling_four (by omega), ?_⟩
    rw [UInt8.toNat_ofNat']
    omega

end Spellings

/-- The bytes of a lesser character are less, whatever follows them. -/
theorem encodeChar_lt {c d : Char} (h : c < d) (x y : List UInt8) :
    String.utf8EncodeChar c ++ x < String.utf8EncodeChar d ++ y := by
  have hlt : c.toNat < d.toNat := h
  have hd := toNat_lt d
  by_cases hone : d.toNat < 0x80
  · rw [spelling_one hone, spelling_one (by omega)]
    exact (@inOrder_single 0x80 0 (by decide)) _ _ hlt hone x y
  by_cases htwo : 0x80 ≤ c.toNat ∧ d.toNat < 0x800
  · rw [spelling_two (c := c) (by omega) (by omega), spelling_two (by omega) htwo.2]
    exact (@inOrder_single 0x20 0xC0 (by decide)).tail _ _ hlt (by omega) x y
  by_cases hthree : 0x800 ≤ c.toNat ∧ d.toNat < 0x10000
  · rw [spelling_three (c := c) (by omega) (by omega), spelling_three (by omega) hthree.2]
    exact (@inOrder_single 0x10 0xE0 (by decide)).tail.tail _ _ hlt (by omega) x y
  by_cases hfour : 0x10000 ≤ c.toNat
  · rw [spelling_four hfour, spelling_four (by omega)]
    exact (@inOrder_single 5 0xF0 (by decide)).tail.tail.tail _ _ hlt (by omega) x y
  -- of two characters of different lengths the first bytes differ
  obtain ⟨b, bs, hc, hleads⟩ := exists_lead c
  obtain ⟨b', bs', hd, hleads'⟩ := exists_lead d
  rw [hc, hd, List.cons_append, List.cons_append, List.cons_lt_cons_iff, UInt8.lt_iff_toNat_lt]
  exact .inl (by omega)

theorem encode_lt : ∀ {s t : List Char}, s < t → encode s < encode t
  | s, [], h => absurd h (List.not_lt_nil s)
  | [], d :: t, _ => by
    obtain ⟨b, bs, hd, -⟩ := exists_lead d
    rw [encode_cons, hd]
    exact List.nil_lt_cons b _
  | c :: s, d :: t, h => by
    rw [encode_cons, encode_cons]
    rcases List.cons_lt_cons_iff.mp h with hlt | ⟨rfl, hlt⟩
    · exact encodeChar_lt hlt _ _
    · exact List.append_left_lt (encode_lt hlt)

/-- Texts stand in the order of their bytes. -/
theorem encodeString_lt_iff {s t : String} : encodeString s < encodeString t ↔ s < t := by
  constructor
  · intro h
    by_contra hnot
    by_cases hback : t < s
    · exact List.lt_asymm h (encode_lt hback)
    · obtain rfl := String.le_antisymm (String.not_lt.mp hback) (String.not_lt.mp hnot)
      exact List.lt_irrefl _ h
  · exact encode_lt

end Utf8

end Attest.Text
