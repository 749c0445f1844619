import Attest.Proofs.Text.Split
import Attest.Text.Quoted

/-!
Quotations, told apart.

A character is written in one of three ways: as it is, by a letter after a backslash, or by its code
point (`Escaped`). What is written tells the character and where it ends (`Escaped.append_inj`), and
none begins with the closing quote, so a quotation tells its text, whatever comes after it
(`quote_append_inj`). All that it shows is printable (`isPrintable_of_mem_quote`).
-/

namespace Attest.Text

open Unicode (isPrintable)

/-! ### Hexadecimal digits -/

/-- The number that the digits write. -/
def hexValue (ds : List Char) : Nat := ds.foldl (fun v c => v * 16 + (hexDigit? c).getD 0) 0

theorem hexDigit?_digitChar : ∀ d < 16, hexDigit? (Nat.digitChar d) = some d := by decide

theorem hexValue_toDigits (n : Nat) : hexValue (Nat.toDigits 16 n) = n := by
  induction n using Nat.strongRecOn with
  | ind n ih =>
    rcases Nat.lt_or_ge n 16 with hn | hn
    · rw [Nat.toDigits_of_lt_base hn]
      simp [hexValue, hexDigit?_digitChar n hn]
    · have hlast := hexDigit?_digitChar (n % 16) (Nat.mod_lt _ (by decide))
      have hbefore : hexValue (Nat.toDigits 16 (n / 16)) = n / 16 := ih _ (by omega)
      rw [hexValue] at hbefore
      rw [Nat.toDigits_of_base_le (by decide) hn, hexValue, List.foldl_append, hbefore]
      simp only [List.foldl_cons, List.foldl_nil, hlast, Option.getD_some]
      omega

theorem exists_digit {n : Nat} {c : Char} (h : c ∈ Nat.toDigits 16 n) :
    ∃ d < 16, c = Nat.digitChar d := by
  induction n using Nat.strongRecOn with
  | ind n ih =>
    rcases Nat.lt_or_ge n 16 with hn | hn
    · rw [Nat.toDigits_of_lt_base hn, List.mem_singleton] at h
      exact ⟨n, hn, h⟩
    · rw [Nat.toDigits_of_base_le (by decide) hn, List.mem_append, List.mem_singleton] at h
      rcases h with hbefore | hlast
      · exact ih _ (by omega) hbefore
      · exact ⟨_, Nat.mod_lt _ (by decide), hlast⟩

/-- The brace that ends a code point is no digit. -/
theorem brace_not_mem_toDigits (n : Nat) : '\x7d' ∉ Nat.toDigits 16 n := by
  intro h
  obtain ⟨d, hd, hbrace⟩ := exists_digit h
  have hno : ∀ d < 16, '\x7d' ≠ Nat.digitChar d := by decide
  exact hno d hd hbrace

/-! ### Characters -/

/-- Printable ASCII characters are from the blank to the tilde. -/
theorem isPrintable_of_ascii {cs : List Char}
    (h : cs.all (fun c => ' ' ≤ c && c ≤ '~') = true) : ∀ c ∈ cs, isPrintable c = true := by
  intro c hc
  have hrange := List.all_eq_true.mp h c hc
  have hlow : c.toNat < 0x80 := by
    simp only [Bool.and_eq_true, decide_eq_true_eq] at hrange
    exact Nat.lt_of_le_of_lt hrange.2 (by decide)
  rw [isPrintable, if_pos hlow, hrange]

/-- The characters that are written by a letter, and the letters. -/
def named : List (Char × Char) :=
  [('"', '"'), ('\\', '\\'), ('\n', 'n'), ('\r', 'r'), ('\t', 't'), ('\x00', '0')]

/-- How a character is written. -/
inductive Escaped (c : Char) : List Char → Prop
  | plain (hquote : c ≠ '"') (hslash : c ≠ '\\') (hprintable : isPrintable c = true) :
      Escaped c [c]
  | letter {d : Char} (h : (c, d) ∈ named) : Escaped c ['\\', d]
  | code : Escaped c ('\\' :: 'u' :: '\x7b' :: (Nat.toDigits 16 c.toNat ++ ['\x7d']))

theorem escaped_escapeChar (c : Char) : Escaped c (escapeChar c) := by
  unfold escapeChar
  split_ifs with hquote hslash hfeed hreturn htab hzero hprintable
  · exact .letter (by simp [named, hquote])
  · exact .letter (by simp [named, hslash])
  · exact .letter (by simp [named, hfeed])
  · exact .letter (by simp [named, hreturn])
  · exact .letter (by simp [named, htab])
  · have hc : c = '\x00' := Char.toNat_inj.mp hzero
    exact .letter (by simp [named, hc])
  · exact .plain hquote hslash hprintable
  · exact .code

theorem named_inj : ∀ p ∈ named, ∀ q ∈ named, p.2 = q.2 → p.1 = q.1 := by decide

theorem named_ne_u : ∀ p ∈ named, p.2 ≠ 'u' := by decide

section Pairs

variable {c d : Char} {x y r s : List Char}

/-- No character is written with a quote in front. -/
theorem Escaped.ne_quote (h : Escaped c x) : x ++ r ≠ '"' :: s := by
  cases h with
  | plain hquote => exact fun h => hquote (List.cons.inj h).1
  | letter => exact fun h => absurd (List.cons.inj h).1 (by decide)
  | code => exact fun h => absurd (List.cons.inj h).1 (by decide)

/-- What is written tells the character, whatever comes after it. -/
theorem Escaped.append_inj (hx : Escaped c x) (hy : Escaped d y) (h : x ++ r = y ++ s) :
    c = d ∧ r = s := by
  cases hx with
  | plain hquote hslash =>
    cases hy with
    | plain => exact List.cons.inj h
    | letter | code => exact absurd (List.cons.inj h).1 hslash
  | @letter k hk =>
    cases hy with
    | plain hquote hslash => exact absurd (List.cons.inj h).1.symm hslash
    | @letter l hl =>
      obtain ⟨rfl, hrest⟩ := List.cons.inj (List.cons.inj h).2
      exact ⟨named_inj _ hk _ hl rfl, hrest⟩
    | code => exact absurd (List.cons.inj (List.cons.inj h).2).1 (named_ne_u _ hk)
  | code =>
    cases hy with
    | plain hquote hslash => exact absurd (List.cons.inj h).1.symm hslash
    | letter hl => exact absurd (List.cons.inj (List.cons.inj h).2).1.symm (named_ne_u _ hl)
    | code =>
      have hdigits : Nat.toDigits 16 c.toNat ++ '\x7d' :: r =
          Nat.toDigits 16 d.toNat ++ '\x7d' :: s := by simpa using h
      obtain ⟨hsame, hrest⟩ :=
        append_cons_inj (brace_not_mem_toDigits _) (brace_not_mem_toDigits _) hdigits
      have hvalue := congrArg hexValue hsame
      rw [hexValue_toDigits, hexValue_toDigits] at hvalue
      exact ⟨Char.toNat_inj.mp hvalue, hrest⟩

/-- All that is written of a character is printable. -/
theorem Escaped.isPrintable (h : Escaped c x) : ∀ e ∈ x, isPrintable e = true := by
  have hmarks : ∀ e ∈ ['\\', 'u', '\x7b', '\x7d'], Unicode.isPrintable e = true :=
    isPrintable_of_ascii rfl
  cases h with
  | plain hquote hslash hprintable => simpa using hprintable
  | @letter d hd =>
    have hletters : ∀ e ∈ named.map Prod.snd, Unicode.isPrintable e = true :=
      isPrintable_of_ascii rfl
    rw [List.forall_mem_cons, List.forall_mem_singleton]
    exact ⟨hmarks _ (by simp), hletters d (List.mem_map_of_mem hd)⟩
  | code =>
    have hdigits : ∀ e ∈ (List.range 16).map Nat.digitChar, Unicode.isPrintable e = true :=
      isPrintable_of_ascii rfl
    intro e he
    by_cases hmark : e ∈ ['\\', 'u', '\x7b', '\x7d']
    · exact hmarks e hmark
    · have hdigit : e ∈ Nat.toDigits 16 c.toNat := by simp_all
      obtain ⟨d, hd, rfl⟩ := exists_digit hdigit
      exact hdigits _ (List.mem_map_of_mem (List.mem_range.mpr hd))

end Pairs

/-! ### Texts -/

/-- By induction on the first of the two texts: the second begins with the same character. -/
theorem escape_append_inj : ∀ (cs ds : List Char) {r s : List Char},
    escape cs ++ '"' :: r = escape ds ++ '"' :: s → cs = ds ∧ r = s
  | [], [], _, _, h => ⟨rfl, (List.cons.inj h).2⟩
  | [], d :: ds, _, _, h => by
    rw [escape, escape, List.flatMap_cons, List.append_assoc] at h
    exact absurd h.symm (escaped_escapeChar d).ne_quote
  | c :: cs, [], _, _, h => by
    rw [escape, escape, List.flatMap_cons, List.append_assoc] at h
    exact absurd h (escaped_escapeChar c).ne_quote
  | c :: cs, d :: ds, _, _, h => by
    rw [escape, escape, List.flatMap_cons, List.flatMap_cons, List.append_assoc,
      List.append_assoc] at h
    obtain ⟨rfl, hrest⟩ := (escaped_escapeChar c).append_inj (escaped_escapeChar d) h
    obtain ⟨rfl, hafter⟩ := escape_append_inj cs ds hrest
    exact ⟨rfl, hafter⟩

variable {t u : String}

theorem quote_toList (t : String) : (quote t).toList = '"' :: (escape t.toList ++ ['"']) :=
  String.toList_ofList

/-- A quotation ends at its closing quote and tells the text. -/
theorem quote_append_inj {r s : List Char} (h : (quote t).toList ++ r = (quote u).toList ++ s) :
    t = u ∧ r = s := by
  have hescaped : escape t.toList ++ '"' :: r = escape u.toList ++ '"' :: s := by
    simpa [quote_toList] using h
  obtain ⟨hchars, hrest⟩ := escape_append_inj _ _ hescaped
  exact ⟨String.toList_inj.mp hchars, hrest⟩

theorem quote_injective (h : quote t = quote u) : t = u := by
  have hnothing : (quote t).toList ++ [] = (quote u).toList ++ [] := by rw [h]
  exact (quote_append_inj hnothing).1

/-- Nothing in a quotation is a line break or anything else that would not show. -/
theorem isPrintable_of_mem_quote {c : Char} (h : c ∈ (quote t).toList) : isPrintable c = true := by
  have hmark : isPrintable '"' = true := isPrintable_of_ascii rfl '"' (List.mem_singleton_self _)
  rw [quote_toList, List.mem_cons, List.mem_append, List.mem_singleton] at h
  rcases h with rfl | hinside | rfl
  · exact hmark
  · obtain ⟨e, -, hc⟩ := List.mem_flatMap.mp hinside
    exact (escaped_escapeChar e).isPrintable c hc
  · exact hmark

end Attest.Text
