import Mathlib.Tactic.IntervalCases
import Attest.Json.Printer
import Attest.Json.Reader

/-!
Strings and numbers of JSON text.

Every character of a string is written in a way of its own and read back in one step
(`scanChars_escape`). A whole number is written in its digits, and reading stops after them where
something follows that belongs to no number (`scanNumber_natural`, `scanNumber_negative`). Of a
double all digits count as long as they fit 64 bits (`Numeral.double?_of_fits`).
-/

namespace Attest.Json

/-! ### Strings -/

/-- The escape of a control character names its code point. -/
theorem scanHex_control {n : Nat} (h : n < 0x20) (s : List Char) :
    scanHex ('0' :: '0' :: (if n < 16 then '0' else '1') :: Nat.digitChar (n % 16) :: s) =
      .ok (n, s) := by
  interval_cases n <;> rfl

/-- What an escape stands for is read after its backslash. -/
theorem scanEscape_control {c : Char} (h : c.toNat < 0x20) (s : List Char) :
    scanEscape ('u' :: '0' :: '0' :: (if c.toNat < 16 then '0' else '1') ::
      Nat.digitChar (c.toNat % 16) :: s) = .ok (c, s) := by
  have hlow : ¬ (0xDC00 ≤ c.toNat ∧ c.toNat ≤ 0xDFFF) := by omega
  have hhigh : ¬ (0xD800 ≤ c.toNat ∧ c.toNat ≤ 0xDBFF) := by omega
  simp only [scanEscape, scanUnicode, scanHex_control h, bind, Except.bind, if_neg hlow,
    if_neg hhigh, Char.ofNat_toNat]

/-- An escape counts for the character that it stands for. -/
theorem scanChars_backslash {e s : List Char} {c : Char} (h : scanEscape e = .ok (c, s))
    (fuel : Nat) :
    scanChars (fuel + 1) ('\\' :: e) = (scanChars fuel s).map fun r => (c :: r.1, r.2) := by
  simp only [scanChars, h, bind, Except.bind]
  cases scanChars fuel s <;> rfl

/-- Any other character stands for itself. -/
theorem scanChars_plain {c : Char} (hquote : c ≠ '"') (hslash : c ≠ '\\')
    (hcontrol : ¬ c.toNat < 0x20) (fuel : Nat) (s : List Char) :
    scanChars (fuel + 1) (c :: s) = (scanChars fuel s).map fun r => (c :: r.1, r.2) := by
  simp only [scanChars, hcontrol, bind, Except.bind, if_false]
  cases scanChars fuel s <;> rfl

/-- A character of a string is read back in one step. -/
theorem scanChars_escapeChar (c : Char) (fuel : Nat) (s : List Char) :
    scanChars (fuel + 1) (escapeChar c ++ s) = (scanChars fuel s).map fun r => (c :: r.1, r.2) := by
  unfold escapeChar
  -- the escapes of one letter
  iterate 5
    split
    next h =>
      subst h
      exact scanChars_backslash rfl fuel
  split
  next h =>
    obtain rfl : c = '\x08' := Char.toNat_inj.mp h
    exact scanChars_backslash rfl fuel
  split
  next h =>
    obtain rfl : c = '\x0c' := Char.toNat_inj.mp h
    exact scanChars_backslash rfl fuel
  -- the other control characters, and all that stand for themselves
  split
  next h => exact scanChars_backslash (scanEscape_control h s) fuel
  next hquote hslash _ _ _ _ _ hcontrol => exact scanChars_plain hquote hslash hcontrol fuel s

theorem escapeChar_length_pos (c : Char) : 0 < (escapeChar c).length := by
  unfold escapeChar
  repeat' split
  all_goals simp

theorem length_le_escape : ∀ cs : List Char, cs.length ≤ (cs.flatMap escapeChar).length
  | [] => Nat.le_refl 0
  | c :: cs => by
    have hc := escapeChar_length_pos c
    have hcs := length_le_escape cs
    rw [List.flatMap_cons, List.length_append, List.length_cons]
    omega

/-- The characters of a string are read back, up to the closing quote. -/
theorem scanChars_escape (rest : List Char) : ∀ (cs : List Char) (fuel : Nat), cs.length < fuel →
    scanChars fuel (cs.flatMap escapeChar ++ '"' :: rest) = .ok (cs, rest)
  | [], fuel + 1, _ => rfl
  | c :: cs, fuel + 1, h => by
    rw [List.flatMap_cons, List.append_assoc, scanChars_escapeChar,
      scanChars_escape rest cs fuel (by simpa using h)]
    rfl

theorem scanString_stringChars (s : String) (rest : List Char) :
    scanString (s.toList.flatMap escapeChar ++ '"' :: rest) = .ok (s, rest) := by
  have hlength : s.toList.length < (s.toList.flatMap escapeChar ++ '"' :: rest).length + 1 := by
    have hchars := length_le_escape s.toList
    simp only [List.length_append, List.length_cons]
    omega
  simp only [scanString, scanChars_escape rest _ _ hlength, bind, Except.bind, String.ofList_toList]

/-! ### Whole numbers -/

/-- Nothing of a number can follow: the text ends, or the list or the object goes on or does. -/
def Closes : List Char → Prop
  | [] => True
  | c :: _ => c = ',' ∨ c = ']' ∨ c = '}'

theorem isDigit_toDigits {n : Nat} {c : Char} (h : c ∈ Nat.toDigits 10 n) : isDigit c = true := by
  have hdigit := Nat.isDigit_of_mem_toDigits (by decide) (by decide) h
  simpa [isDigit, Char.isDigit, Char.le_def] using hdigit

theorem appendDigits_toDigits (n : Nat) : appendDigits 0 (Nat.toDigits 10 n) = n := by
  have hstep : (fun (n : Nat) (c : Char) => n * 10 + (c.toNat - 48)) =
      fun n c => 10 * n + (c.toNat - '0'.toNat) := by
    funext n c
    rw [Nat.mul_comm]
    rfl
  rw [appendDigits, hstep]
  exact Nat.ofDigitChars_ten_toDigits

/-- The first digit is a zero in zero alone. -/
theorem toDigits_cons {n : Nat} (h : 0 < n) :
    ∃ c ds, Nat.toDigits 10 n = c :: ds ∧ c ≠ '0' := by
  induction n using Nat.strongRecOn with
  | _ n ih =>
    by_cases hn : n < 10
    · refine ⟨Nat.digitChar n, [], Nat.toDigits_of_lt_base hn, ?_⟩
      interval_cases n <;> decide
    · obtain ⟨c, ds, hds, hc⟩ := ih (n / 10) (by omega) (by omega)
      refine ⟨c, ds ++ [Nat.digitChar (n % 10)], ?_, hc⟩
      rw [Nat.toDigits_of_base_le (by decide) (by omega), hds, List.cons_append]

variable {rest : List Char}

theorem digits_closes {ds : List Char} (hds : ∀ c ∈ ds, isDigit c = true) (hr : Closes rest) :
    (ds ++ rest).takeWhile isDigit = ds ∧ (ds ++ rest).dropWhile isDigit = rest := by
  have hrest : rest.takeWhile isDigit = [] ∧ rest.dropWhile isDigit = rest := by
    match rest, hr with
    | [], _ => exact ⟨rfl, rfl⟩
    | c :: s, hr => rcases hr with rfl | rfl | rfl <;> exact ⟨rfl, rfl⟩
  rw [List.takeWhile_append_of_pos hds, List.dropWhile_append_of_pos hds, hrest.1, hrest.2,
    List.append_nil]
  exact ⟨rfl, rfl⟩

theorem scanWhole_digits (n : Nat) (hr : Closes rest) :
    scanWhole (Nat.toDigits 10 n ++ rest) = .ok (Nat.toDigits 10 n, rest) := by
  by_cases hn : n = 0
  · subst hn
    match rest, hr with
    | [], _ => rfl
    | c :: s, hr => rcases hr with rfl | rfl | rfl <;> rfl
  · obtain ⟨c, ds, hds, hc⟩ := toDigits_cons (Nat.pos_of_ne_zero hn)
    have hdigits (d) (hd : d ∈ c :: ds) : isDigit d = true := isDigit_toDigits (hds ▸ hd)
    obtain ⟨htake, hdrop⟩ := digits_closes (fun d hd => hdigits d (List.mem_cons_of_mem c hd)) hr
    simp only [hds, List.cons_append, scanWhole, hdigits c List.mem_cons_self, htake, hdrop,
      if_true]

theorem scanNumeral_digits (negative : Bool) (n : Nat) (hr : Closes rest) :
    scanNumeral negative (Nat.toDigits 10 n ++ rest) =
      .ok (⟨negative, Nat.toDigits 10 n, none, none⟩, rest) := by
  simp only [scanNumeral, scanWhole_digits n hr, bind, Except.bind]
  match rest, hr with
  | [], _ => rfl
  | c :: s, hr => rcases hr with rfl | rfl | rfl <;> rfl

/-- The digits of a whole number that fits are read back as that number. -/
theorem scanNumber_natural {n : Nat} (h : n < pow2 64) (hr : Closes rest) :
    scanNumber false (Nat.toDigits 10 n ++ rest) = .ok (.integer n, rest) := by
  have hvalue : (Numeral.mk false (Nat.toDigits 10 n) none none).value? = some (.integer n) := by
    simp [Numeral.value?, appendDigits_toDigits, h]
  simp only [scanNumber, scanNumeral_digits false n hr, bind, Except.bind, hvalue]

theorem scanNumber_negative {n : Nat} (h : 0 < n) (h' : n ≤ pow2 63) (hr : Closes rest) :
    scanNumber true (Nat.toDigits 10 n ++ rest) = .ok (.integer (-(n : Int)), rest) := by
  have hvalue : (Numeral.mk true (Nat.toDigits 10 n) none none).value? =
      some (.integer (-(n : Int))) := by
    simp [Numeral.value?, appendDigits_toDigits, h, h']
  simp only [scanNumber, scanNumeral_digits true n hr, bind, Except.bind, hvalue]

/-! ### Doubles -/

theorem le_appendDigits : ∀ (digits : List Char) (n : Nat), n ≤ appendDigits n digits
  | [], n => Nat.le_refl n
  | c :: rest, n =>
    calc n ≤ n * 10 + (c.toNat - 48) := by omega
      _ ≤ appendDigits n (c :: rest) := le_appendDigits rest _

theorem appendFitting_of_fits : ∀ {digits : List Char} {n : Nat},
    appendDigits n digits < pow2 64 → appendFitting n digits = (appendDigits n digits, [])
  | [], _, _ => rfl
  | c :: rest, n, h => by
    have hnext : n * 10 + (c.toNat - 48) < pow2 64 :=
      Nat.lt_of_le_of_lt (le_appendDigits rest _) h
    simp only [appendFitting, if_pos hnext]
    exact appendFitting_of_fits h

/-- Digits that fit 64 bits all count. -/
theorem Numeral.double?_of_fits {n : Numeral} {significand : Nat}
    (hsignificand : appendDigits (appendDigits 0 n.whole) (n.fraction.getD []) = significand)
    (hfits : significand < pow2 64) :
    n.double? = (Double.ofDecimal? significand
      (n.exponent.getD 0 - (n.fraction.getD []).length)).map (Double.withSign n.negative) := by
  subst hsignificand
  have hwhole : appendDigits 0 n.whole < pow2 64 :=
    Nat.lt_of_le_of_lt (le_appendDigits _ _) hfits
  simp only [double?, appendFitting_of_fits hwhole, appendFitting_of_fits hfits]
  simp

/-- Digits for which the largest double is the nearest; their product with ten to the power 292 is
past it all the same. -/
example : (Numeral.mk false ['1'] (some "7976931348623158".toList) (some 308)).double? = none := by
  decide +kernel

end Attest.Json
