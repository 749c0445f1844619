import Attest.Http.ContentType
import Attest.Proofs.Text.Split
import Attest.Proofs.Text.Utf8

/-!
Charsets and the texts that bytes spell in them.

Each encoding has two names, in any letter case, and no name is that of two encodings
(`Encoding.ofCharset?_eq_some_iff`). What bytes spell is said without reading them
(`Encoding.Spells`), and reading gives this text or fails for want of one
(`Encoding.decode_eq_ok_iff`, `Encoding.kind_of_decode_error`).
-/

namespace Attest

namespace Encoding

/-! ### Names -/

def names : Encoding → List String
  | .utf8 => ["utf-8", "utf8"]
  | .ascii => ["us-ascii", "ascii"]
  | .latin1 => ["iso-8859-1", "latin1"]

/-- The charset is a name of the encoding, in some letter case. -/
def HasName (e : Encoding) (charset : String) : Prop :=
  ∃ name ∈ e.names, Text.sameIgnoringCase charset name = true

instance (e : Encoding) (charset : String) : Decidable (e.HasName charset) :=
  inferInstanceAs (Decidable (∃ name ∈ e.names, Text.sameIgnoringCase charset name = true))

variable {e e' : Encoding} {charset : String}

/-- No charset names two encodings. -/
theorem HasName.unique (h : e.HasName charset) (h' : e'.HasName charset) : e = e' := by
  obtain ⟨name, hname, hsame⟩ := h
  obtain ⟨name', hname', hsame'⟩ := h'
  rw [Text.sameIgnoringCase_iff] at hsame hsame'
  have hlower : Text.asciiLower name.toList = Text.asciiLower name'.toList :=
    hsame.symm.trans hsame'
  -- the names are told apart by their lower case, pair by pair
  have hapart : ∀ e e' : Encoding, ∀ name ∈ e.names, ∀ name' ∈ e'.names,
      Text.asciiLower name.toList = Text.asciiLower name'.toList → e = e' := by
    intro e e'
    cases e <;> cases e' <;> decide
  exact hapart e e' name hname name' hname' hlower

theorem ofCharset?_eq_some_iff : ofCharset? charset = some e ↔ e.HasName charset := by
  have hutf8 : utf8.HasName charset ↔ (Text.sameIgnoringCase charset "utf-8" ||
      Text.sameIgnoringCase charset "utf8") = true := by simp [HasName, names]
  have hascii : ascii.HasName charset ↔ (Text.sameIgnoringCase charset "us-ascii" ||
      Text.sameIgnoringCase charset "ascii") = true := by simp [HasName, names]
  have hlatin1 : latin1.HasName charset ↔ (Text.sameIgnoringCase charset "iso-8859-1" ||
      Text.sameIgnoringCase charset "latin1") = true := by simp [HasName, names]
  unfold ofCharset?
  dsimp only
  constructor
  · intro h
    split at h
    next hname => cases h; exact hutf8.mpr hname
    next =>
      split at h
      next hname => cases h; exact hascii.mpr hname
      next =>
        split at h
        next hname => cases h; exact hlatin1.mpr hname
        next => cases h
  · intro h
    -- the conditions before the one of this encoding ask for names of others
    have hother {e' : Encoding} (hne : e' ≠ e) : ¬ e'.HasName charset := fun h' => hne (h'.unique h)
    cases e with
    | utf8 => rw [if_pos (hutf8.mp h)]
    | ascii => rw [if_neg (hutf8.not.mp (hother (by decide))), if_pos (hascii.mp h)]
    | latin1 =>
      rw [if_neg (hutf8.not.mp (hother (by decide))), if_neg (hascii.not.mp (hother (by decide))),
        if_pos (hlatin1.mp h)]

/-- The encoding of a text whose charset is declared like this: UTF-8 where none is. -/
def DeclaredBy (e : Encoding) : (charset : Option String) → Prop
  | none => e = .utf8
  | some charset => e.HasName charset

instance (e : Encoding) : (charset : Option String) → Decidable (e.DeclaredBy charset)
  | none => inferInstanceAs (Decidable (e = .utf8))
  | some charset => inferInstanceAs (Decidable (e.HasName charset))

/-! ### Texts -/

/-- The bytes are the text in the encoding. -/
def Spells (bytes : List UInt8) (text : String) : Encoding → Prop
  | .utf8 => bytes = Text.Utf8.encodeString text
  | .ascii => (∀ b ∈ bytes, b < 0x80) ∧ text.toList.map Char.toNat = bytes.map UInt8.toNat
  | .latin1 => text.toList.map Char.toNat = bytes.map UInt8.toNat

/-- The text of which each byte is one character is the only one with these codes. -/
theorem textOfBytes_eq_iff {bytes : List UInt8} {text : String} :
    textOfBytes bytes = text ↔ text.toList.map Char.toNat = bytes.map UInt8.toNat := by
  constructor
  · rintro rfl
    rw [textOfBytes, String.toList_ofList, List.map_map]
    refine List.map_congr_left fun b _ => ?_
    have hsmall := b.toNat_lt
    exact Text.Utf8.val_ofNat (.inl (by omega))
  · intro h
    have htext : bytes.map (fun b => Char.ofNat b.toNat) = text.toList := by
      calc bytes.map (fun b => Char.ofNat b.toNat)
          = (bytes.map UInt8.toNat).map Char.ofNat := by rw [List.map_map]; rfl
        _ = text.toList := by rw [← h, List.map_map]; simp [Function.comp_def]
    rw [textOfBytes, htext, String.ofList_toList]

theorem decode_eq_ok_iff {bytes : List UInt8} {text : String} :
    e.decode bytes = .ok text ↔ e.Spells bytes text := by
  cases e with
  | utf8 =>
    rw [Spells, ← Text.Utf8.decode_eq_ok_iff, decode]
    cases Text.Utf8.decode bytes <;> simp
  | ascii =>
    have hsmall : bytes.findIdx? (0x80 ≤ ·) = none ↔ ∀ b ∈ bytes, b < 0x80 := by
      simp [List.findIdx?_eq_none_iff]
    rw [Spells, ← hsmall, ← textOfBytes_eq_iff, decode]
    cases bytes.findIdx? (0x80 ≤ ·) <;> simp
  | latin1 => simp [Spells, ← textOfBytes_eq_iff, decode]

/-- Reading fails in one way only. -/
theorem kind_of_decode_error {bytes : List UInt8} {f : Failure} (h : e.decode bytes = .error f) :
    f.kind = .decodeFailure := by
  cases e with
  | utf8 =>
    rw [decode] at h
    split at h <;> cases h
    rfl
  | ascii =>
    rw [decode] at h
    split at h <;> cases h
    rfl
  | latin1 => cases h

theorem decode_of_not_spells {bytes : List UInt8} (h : ¬ ∃ text, e.Spells bytes text) :
    ∃ f, e.decode bytes = .error f ∧ f.kind = .decodeFailure := by
  cases hread : e.decode bytes with
  | ok text => exact absurd ⟨text, decode_eq_ok_iff.mp hread⟩ h
  | error f => exact ⟨f, rfl, kind_of_decode_error hread⟩

end Encoding

/-! ### Declared charsets -/

section Declared

variable {e : Encoding} {bytes : List UInt8} {charset : Option String}

theorem readText_of_declaredBy (h : e.DeclaredBy charset) (bytes : List UInt8) :
    readText bytes charset = e.decode bytes := by
  have hfound : Encoding.ofCharset? (charset.getD "utf-8") = some e := by
    cases charset with
    | none => cases h; decide
    | some charset => exact Encoding.ofCharset?_eq_some_iff.mpr h
  simp only [readText, hfound]

/-- Nothing declared means UTF-8. -/
theorem readText_none (bytes : List UInt8) : readText bytes none = Encoding.utf8.decode bytes :=
  @readText_of_declaredBy .utf8 none rfl bytes

/-- A charset that names no encoding is refused, whatever the bytes are. -/
theorem readText_of_not_declaredBy (h : ¬ ∃ e : Encoding, e.DeclaredBy charset)
    (bytes : List UInt8) :
    ∃ f, readText bytes charset = .error f ∧ f.kind = .unsupportedCharset := by
  cases charset with
  | none => exact absurd ⟨.utf8, rfl⟩ h
  | some charset =>
    cases hfound : Encoding.ofCharset? charset with
    | none =>
      refine ⟨⟨.unsupportedCharset,
        "unsupported charset " ++ Text.quote charset ++ " in \"Content-Type\" header"⟩, ?_, rfl⟩
      simp only [readText, Option.getD_some, hfound]
    | some e => exact absurd ⟨e, Encoding.ofCharset?_eq_some_iff.mp hfound⟩ h

theorem ContentType.isUtf8_iff {ct : ContentType} :
    ct.isUtf8 = true ↔ Encoding.utf8.DeclaredBy ct.charset := by
  unfold ContentType.isUtf8
  cases ct.charset with
  | none => exact ⟨fun _ => rfl, fun _ => rfl⟩
  | some charset =>
    dsimp only
    rw [beq_iff_eq, Encoding.ofCharset?_eq_some_iff]
    exact Iff.rfl

end Declared

end Attest
