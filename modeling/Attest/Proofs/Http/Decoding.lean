import Attest.Proofs.Http.Charset

/-!
What bytes come to in each charset.

Reading undoes the encoding that the charset names, and refuses what no text is encoded as
(`readText_exact`). All encodings agree on ASCII (`Encoding.decode_of_ascii`), and UTF-8 and Latin-1
on nothing else (`Encoding.ascii_of_utf8_of_latin1`).
-/

namespace Attest

/-- Each byte is a code of ASCII. -/
def IsAscii (bytes : List UInt8) : Prop := ∀ b ∈ bytes, b < 0x80

instance (bytes : List UInt8) : Decidable (IsAscii bytes) :=
  decidable_of_iff (bytes.all (· < 0x80) = true) (by simp [IsAscii])

namespace Encoding

variable {bytes : List UInt8} {text : String}

theorem codes_textOfBytes (bytes : List UInt8) :
    (textOfBytes bytes).toList.map Char.toNat = bytes.map UInt8.toNat :=
  textOfBytes_eq_iff.mp rfl

/-! ### Where encodings agree -/

/-- ASCII bytes spell the same text in each encoding. -/
theorem spells_of_ascii (h : IsAscii bytes) (e : Encoding) :
    e.Spells bytes (textOfBytes bytes) := by
  cases e with
  | utf8 =>
    rw [Spells, Text.Utf8.encodeString, textOfBytes, String.toList_ofList]
    exact (Text.Utf8.encode_ascii h).symm
  | ascii => exact ⟨h, codes_textOfBytes bytes⟩
  | latin1 => exact codes_textOfBytes bytes

theorem decode_of_ascii (h : IsAscii bytes) (e : Encoding) :
    e.decode bytes = .ok (textOfBytes bytes) :=
  decode_eq_ok_iff.mpr (spells_of_ascii h e)

/-- Bytes that spell one text in UTF-8 and in Latin-1 are ASCII: they are as many as its
characters. -/
theorem ascii_of_utf8_of_latin1 (h : utf8.Spells bytes text) (h' : latin1.Spells bytes text) :
    IsAscii bytes := by
  simp only [Spells] at h h'
  have hlength : (Text.Utf8.encode text.toList).length = text.toList.length := by
    calc (Text.Utf8.encode text.toList).length
        = bytes.length := congrArg List.length h.symm
      _ = (text.toList.map Char.toNat).length := by rw [h', List.length_map]
      _ = text.toList.length := List.length_map _
  have hsmall := Text.Utf8.ascii_of_length_encode hlength
  intro b hb
  have hcode : b.toNat ∈ text.toList.map Char.toNat := h' ▸ List.mem_map_of_mem hb
  obtain ⟨c, hc, hcb⟩ := List.mem_map.mp hcode
  rw [UInt8.lt_iff_toNat_lt, ← hcb]
  exact hsmall c hc

/-- One letter with an accent in UTF-8 is another text in Latin-1, and none in ASCII. -/
theorem eq_utf8_of_spells {e : Encoding} (h : e.Spells [0xC3, 0xA9] "é") : e = .utf8 := by
  cases e with
  | utf8 => rfl
  | ascii => exact absurd (h.1 0xC3 List.mem_cons_self) (by decide)
  | latin1 =>
    have hcodes : "é".toList.map Char.toNat = [0xC3, 0xA9].map UInt8.toNat := h
    exact absurd hcodes (by decide)

/-! ### ASCII -/

theorem decode_ascii_ok_iff : (∃ text, ascii.decode bytes = .ok text) ↔ IsAscii bytes := by
  simp only [decode_eq_ok_iff]
  constructor
  · rintro ⟨_, h, -⟩
    exact h
  · intro h
    exact ⟨_, spells_of_ascii h .ascii⟩

theorem exists_first_of_not_ascii (h : ¬ IsAscii bytes) :
    ∃ before b after, bytes = before ++ b :: after ∧ IsAscii before ∧ 0x80 ≤ b := by
  cases hfirst : bytes.find? (0x80 ≤ ·) with
  | none => exact absurd (by simpa [IsAscii] using hfirst) h
  | some b =>
    obtain ⟨hb, before, after, rfl, hbefore⟩ := List.find?_eq_some_iff_append.mp hfirst
    exact ⟨before, b, after, rfl, by simpa [IsAscii] using hbefore, of_decide_eq_true hb⟩

/-- The first byte that is not ASCII is reported with its offset. -/
theorem decode_ascii_error {before after : List UInt8} {b : UInt8} (hbefore : IsAscii before)
    (hb : 0x80 ≤ b) :
    ascii.decode (before ++ b :: after) = .error ⟨.decodeFailure,
      s!"can't decode body as us-ascii: non-ascii byte at offset {before.length}"⟩ := by
  have hnone : before.findIdx? (0x80 ≤ ·) = none := by
    simpa [List.findIdx?_eq_none_iff, IsAscii] using hbefore
  have hfirst : (before ++ b :: after).findIdx? (0x80 ≤ ·) = some before.length := by
    rw [List.findIdx?_append, hnone, List.findIdx?_cons, if_pos (decide_eq_true hb)]
    simp
  simp only [decode, hfirst]

end Encoding

/-! ### Declared charsets -/

/-- A charset is UTF-8, or none, exactly if all bytes come to the same in it as without one: the
two bytes of one letter tell UTF-8 from all else. -/
theorem utf8_declaredBy_iff {charset : Option String} :
    Encoding.utf8.DeclaredBy charset ↔
      ∀ bytes, (readText bytes charset).mapError Failure.kind =
        (readText bytes none).mapError Failure.kind := by
  constructor
  · intro h bytes
    rw [readText_of_declaredBy h, readText_none]
  · intro h
    have hspells : Encoding.utf8.Spells [0xC3, 0xA9] "é" := by
      rw [Encoding.Spells]
      decide
    have hletter : (readText [0xC3, 0xA9] charset).mapError Failure.kind = .ok "é" := by
      rw [h, readText_none, Encoding.decode_eq_ok_iff.mpr hspells]
      rfl
    by_cases hdeclared : ∃ e : Encoding, e.DeclaredBy charset
    · obtain ⟨e, he⟩ := hdeclared
      rw [readText_of_declaredBy he] at hletter
      cases hread : e.decode [0xC3, 0xA9] with
      | ok text =>
        rw [hread] at hletter
        cases hletter
        exact Encoding.eq_utf8_of_spells (Encoding.decode_eq_ok_iff.mp hread) ▸ he
      | error f =>
        rw [hread] at hletter
        cases hletter
    · obtain ⟨f, hf, -⟩ := readText_of_not_declaredBy hdeclared [0xC3, 0xA9]
      rw [hf] at hletter
      cases hletter

/-- CORRECT. In UTF-8, declared or not, bytes are read as the text of which they are the encoding.
In ASCII they are read exactly if each is ASCII, and else the offset of the first that is not is
reported. In Latin-1 they are always read, each byte as the character with its code. No other
charset is supported, whatever the bytes are. All charsets that are give the same text for ASCII
bytes; UTF-8 and Latin-1 never do for others. -/
theorem readText_exact (bytes : List UInt8) :
    (∀ charset, Encoding.utf8.DeclaredBy charset → ∀ text,
      readText bytes charset = .ok text ↔ bytes = Text.Utf8.encodeString text) ∧
    (∀ charset, Encoding.ascii.DeclaredBy charset →
      ((∃ text, readText bytes charset = .ok text) ↔ IsAscii bytes) ∧
      (∀ text, readText bytes charset = .ok text →
        text.toList.map Char.toNat = bytes.map UInt8.toNat) ∧
      (¬ IsAscii bytes → ∃ before b after, bytes = before ++ b :: after ∧ IsAscii before ∧
        0x80 ≤ b ∧ readText bytes charset = .error ⟨.decodeFailure,
          s!"can't decode body as us-ascii: non-ascii byte at offset {before.length}"⟩)) ∧
    (∀ charset, Encoding.latin1.DeclaredBy charset → ∃ text, readText bytes charset = .ok text ∧
      text.toList.map Char.toNat = bytes.map UInt8.toNat) ∧
    (∀ charset, (¬ ∃ e : Encoding, e.DeclaredBy charset) →
      ∃ f, readText bytes charset = .error f ∧ f.kind = .unsupportedCharset) ∧
    (∀ (e : Encoding) charset f, e.DeclaredBy charset → readText bytes charset = .error f →
      f.kind = .decodeFailure) ∧
    (IsAscii bytes → ∃ text, ∀ (e : Encoding) charset, e.DeclaredBy charset →
      readText bytes charset = .ok text) ∧
    ∀ charset charset' text, Encoding.utf8.DeclaredBy charset →
      Encoding.latin1.DeclaredBy charset' → readText bytes charset = .ok text →
      readText bytes charset' = .ok text → IsAscii bytes := by
  refine ⟨fun charset h text => ?utf8, fun charset h => ?ascii, fun charset h => ?latin1,
    fun charset h => readText_of_not_declaredBy h bytes, fun e charset f h => ?failure,
    fun hsmall => ⟨textOfBytes bytes, fun e charset h => ?same⟩,
    fun charset charset' text h h' => ?apart⟩
  case utf8 =>
    rw [readText_of_declaredBy h]
    exact Encoding.decode_eq_ok_iff
  case ascii =>
    rw [readText_of_declaredBy h]
    refine ⟨Encoding.decode_ascii_ok_iff, fun text hread => ?_, ?_⟩
    · exact (Encoding.decode_eq_ok_iff.mp hread).2
    · intro hlarge
      obtain ⟨before, b, after, rfl, hbefore, hb⟩ := Encoding.exists_first_of_not_ascii hlarge
      exact ⟨before, b, after, rfl, hbefore, hb, Encoding.decode_ascii_error hbefore hb⟩
  case latin1 =>
    rw [readText_of_declaredBy h]
    exact ⟨textOfBytes bytes, rfl, Encoding.codes_textOfBytes bytes⟩
  case failure =>
    rw [readText_of_declaredBy h]
    exact Encoding.kind_of_decode_error
  case same =>
    rw [readText_of_declaredBy h]
    exact Encoding.decode_of_ascii hsmall e
  case apart =>
    rw [readText_of_declaredBy h, readText_of_declaredBy h']
    intro hread hread'
    exact Encoding.ascii_of_utf8_of_latin1 (Encoding.decode_eq_ok_iff.mp hread)
      (Encoding.decode_eq_ok_iff.mp hread')

/-- One letter with an accent in the two encodings that have it, and in those that do not. -/
theorem readText_exact_of_accent :
    readText [0x63, 0xC3, 0xA9] (some "UTF8") = .ok "cé" ∧
      readText [0x63, 0xC3, 0xA9] (some "US-ascii") = .error ⟨.decodeFailure,
        "can't decode body as us-ascii: non-ascii byte at offset 1"⟩ ∧
      (∃ text, readText [0x63, 0xC3, 0xA9] (some "latin1") = .ok text ∧
        text.toList.map Char.toNat = [0x63, 0xC3, 0xA9]) ∧
      readText [0x63, 0xC3, 0xA9] (some "latin1") ≠ .ok "cé" ∧
      (∃ f, readText [0x63, 0xC3, 0xA9] (some "koi8-r") = .error f ∧
        f.kind = .unsupportedCharset) ∧
      ∃ text, readText [0x63] none = .ok text ∧ readText [0x63] (some "ascii") = .ok text := by
  have hutf8 : Encoding.utf8.DeclaredBy (some "UTF8") := by decide
  have hascii : Encoding.ascii.DeclaredBy (some "US-ascii") := by decide
  have hlatin1 : Encoding.latin1.DeclaredBy (some "latin1") := by decide
  have hnone : ¬ ∃ e : Encoding, e.DeclaredBy (some "koi8-r") := by
    rintro ⟨e, h⟩
    cases e <;> revert h <;> decide
  obtain ⟨hu, ha, hl, hn, -, -, hapart⟩ := readText_exact [0x63, 0xC3, 0xA9]
  obtain ⟨-, -, -, -, -, hsame, -⟩ := readText_exact [0x63]
  obtain ⟨text, htext⟩ := hsame (by decide)
  have hread : readText [0x63, 0xC3, 0xA9] (some "UTF8") = .ok "cé" :=
    (hu _ hutf8 _).mpr (by decide)
  refine ⟨hread, ?_, hl _ hlatin1, ?_, hn _ hnone, text, htext .utf8 none rfl, ?_⟩
  · -- the first byte that is not ASCII can only be the second
    obtain ⟨before, b, after, hcut, hbefore, hb, hfails⟩ := (ha _ hascii).2.2 (by decide)
    rcases before with _ | ⟨x, _ | ⟨y, before⟩⟩
    · cases hcut
      exact absurd hb (by decide)
    · exact hfails.trans (by rw [List.length_singleton]; rfl)
    · simp only [List.cons_append, List.cons.injEq] at hcut
      exact absurd (hbefore y (by simp)) (by rw [← hcut.2.1]; decide)
  · intro hread'
    exact absurd (hapart _ _ _ hutf8 hlatin1 hread hread') (by decide)
  · exact htext .ascii (some "ascii") (by decide)

end Attest
