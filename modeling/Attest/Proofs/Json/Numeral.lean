import Attest.Json.Skip
import Attest.Proofs.Json.RoundTrip

/-!
Numbers of JSON text, by their form.

A number is a whole part without a needless zero, a fraction and an exponent, of which the last two
may be missing (`Numeric`). Whole numbers and doubles are written so (`numeric_double`), and what is
written so is passed over up to where a value can end (`skipNumber_numeric`).
-/

namespace Attest

/-! ### The digits of a double -/

theorem Double.form_of_isFinite {x : Double} (h : x.isFinite = true) :
    ∃ negative significand exponent, x.form = .finite negative significand exponent := by
  have hbiased : x.magnitude / pow2 52 ≠ 0x7FF := by
    have hlt : x.magnitude < 0x7FF * pow2 52 := of_decide_eq_true h
    exact Nat.ne_of_lt (Nat.div_lt_of_lt_mul (by rwa [Nat.mul_comm]))
  simp only [form, if_neg hbiased]
  split <;> exact ⟨_, _, _, rfl⟩

namespace Decimal

/-- There is something to write before the point, or nothing is. -/
def Leads (d : Decimal) : Prop := d.digits ≠ 0 ∨ d.exponent < 0

theorem ratio_one_pos (exponent : Int) :
    0 < (Double.ratio 1 exponent).1 ∧ 0 < (Double.ratio 1 exponent).2 := by
  have hpow (n : Nat) : 0 < pow2 n := Nat.pow_pos (by decide)
  unfold Double.ratio
  split
  · simp [hpow]
  · simp [hpow]

theorem interval_pos {significand : Nat} (h : significand ≠ 0) (exponent : Int) :
    0 < (interval significand exponent).low ∧ 0 < (interval significand exponent).den := by
  obtain ⟨hunit, hden⟩ := ratio_one_pos (exponent - 2)
  refine ⟨Nat.mul_pos ?_ hunit, hden⟩
  split <;> omega

variable {i : Interval} {power : Int} {d : Decimal}

/-- The reals that round to a double other than zero do not come down to zero. -/
theorem admits_ne_zero {count : Nat} (hlow : 0 < i.low) (h : i.admits count power = true) :
    count ≠ 0 := by
  rintro rfl
  have hpos : 0 < i.low * pow10 (-power).toNat := Nat.mul_pos hlow (Nat.pow_pos (by decide))
  simp only [Interval.admits, Nat.zero_mul] at h
  split at h <;> simp only [Bool.and_eq_true, decide_eq_true_eq] at h <;> omega

theorem onGrid?_ne_zero (hlow : 0 < i.low) (h : i.onGrid? power = some d) : d.digits ≠ 0 := by
  simp only [Interval.onGrid?] at h
  -- which of the neighbours is tried first does not matter
  generalize Double.roundDiv _ _ = nearest at h
  generalize (if nearest = _ then _ else _) = other at h
  split at h
  next hadmits =>
    cases h
    exact admits_ne_zero hlow hadmits
  next =>
    split at h <;> cases h
    next hadmits => exact admits_ne_zero hlow hadmits

theorem search_leads (hlow : 0 < i.low) (hden : 0 < i.den) : ∀ (count : Nat) {power : Int},
    i.den ≤ i.value ∨ power < 0 → (i.search count power).Leads
  | 0, power, h => by
    refine h.imp (fun hle => ?_) id
    exact Nat.ne_of_gt (Nat.div_pos hle hden)
  | count + 1, power, h => by
    rw [Interval.search]
    cases hgrid : i.onGrid? power with
    | some d => exact .inl (onGrid?_ne_zero hlow hgrid)
    | none => exact search_leads hlow hden count (h.imp_right fun hneg => by omega)

theorem trim_leads : ∀ (fuel : Nat) {d : Decimal}, d.Leads → (trim fuel d).Leads
  | 0, _, h => h
  | fuel + 1, d, h => by
    rw [trim]
    split
    next hzero => exact trim_leads fuel (.inl (by simp only; omega))
    next => exact h

theorem shortest_leads {significand : Nat} (h : significand ≠ 0) (exponent : Int) :
    (shortest significand exponent).Leads := by
  obtain ⟨hlow, hden⟩ := interval_pos h exponent
  refine trim_leads 20 (search_leads hlow hden 17 ?_)
  generalize interval significand exponent = i
  unfold leadingPower
  split
  next hle => exact .inl hle
  next =>
    have hlength := List.length_pos_of_ne_nil
      (Nat.toDigits_ne_nil (n := (i.den + i.value - 1) / i.value - 1) (b := 10))
    exact .inr (by omega)

end Decimal

namespace Json

/-! ### The form of numbers -/

/-- One digit or more. -/
def Digits (s : List Char) : Prop := s ≠ [] ∧ ∀ c ∈ s, isDigit c = true

/-- Digits of which the first is a zero only if it is the last. -/
def WholePart (s : List Char) : Prop := Digits s ∧ (s.head? = some '0' → s = ['0'])

inductive FractionPart : List Char → Prop where
  | none : FractionPart []
  | some {s : List Char} (h : Digits s) : FractionPart ('.' :: s)

inductive ExponentPart : List Char → Prop where
  | none : ExponentPart []
  | some {sign : Char} {s : List Char} (hsign : sign = '+' ∨ sign = '-') (h : Digits s) :
      ExponentPart ('e' :: sign :: s)

/-- A number without its sign. -/
def Numeric (s : List Char) : Prop :=
  ∃ whole fraction exponent, s = whole ++ (fraction ++ exponent) ∧ WholePart whole ∧
    FractionPart fraction ∧ ExponentPart exponent

theorem digits_toDigits (n : Nat) : Digits (Nat.toDigits 10 n) :=
  ⟨Nat.toDigits_ne_nil, fun _ => isDigit_toDigits⟩

theorem toDigits_eq_zero_of_head {n : Nat} (h : (Nat.toDigits 10 n).head? = some '0') : n = 0 := by
  by_contra hn
  obtain ⟨c, ds, hds, hc⟩ := toDigits_cons (Nat.pos_of_ne_zero hn)
  rw [hds] at h
  exact hc (Option.some.inj h)

theorem wholePart_toDigits (n : Nat) : WholePart (Nat.toDigits 10 n) := by
  refine ⟨digits_toDigits n, fun h => ?_⟩
  rw [toDigits_eq_zero_of_head h]
  rfl

theorem numeric_toDigits (n : Nat) : Numeric (Nat.toDigits 10 n) :=
  ⟨_, [], [], by simp, wholePart_toDigits n, .none, .none⟩

theorem digits_zeros (n : Nat) {c : Char} (hc : c ∈ List.replicate n '0') : isDigit c = true := by
  rw [List.eq_of_mem_replicate hc]
  rfl

theorem wholePart_of_head {s : List Char} {n : Nat} (hn : n ≠ 0) (hs : Digits s)
    (hhead : s.head? = (Nat.toDigits 10 n).head?) : WholePart s :=
  ⟨hs, fun h => absurd (toDigits_eq_zero_of_head (hhead ▸ h)) hn⟩

/-- Digits around a point, or before zeros that fill up to it. -/
theorem numeric_positional {n : Nat} {point : Int}
    (hn : n ≠ 0 ∨ point < (Nat.toDigits 10 n).length) :
    Numeric (Decimal.positionalText true (Nat.toDigits 10 n) point).toList := by
  obtain ⟨hne, hdigits⟩ := digits_toDigits n
  simp only [Decimal.positionalText, String.toList_ofList]
  split
  next =>
    refine ⟨['0'], '.' :: (List.replicate (-point).toNat '0' ++ Nat.toDigits 10 n), [], by simp,
      wholePart_toDigits 0, .some ⟨by simp [hne], ?_⟩, .none⟩
    intro c hc
    exact (List.mem_append.mp hc).elim (digits_zeros _) (hdigits c)
  next hpoint =>
    have hn : n ≠ 0 := by
      rintro rfl
      have hone : (Nat.toDigits 10 0).length = 1 := rfl
      omega
    split
    next hcount =>
      refine ⟨Nat.toDigits 10 n ++ List.replicate (point - (Nat.toDigits 10 n).length).toNat '0',
        ['.', '0'], [], by simp, wholePart_of_head hn ⟨by simp [hne], ?_⟩ ?_,
        .some (digits_toDigits 0), .none⟩
      · intro c hc
        exact (List.mem_append.mp hc).elim (hdigits c) (digits_zeros _)
      · exact List.head?_append_of_ne_nil _ hne
    next hcount =>
      refine ⟨(Nat.toDigits 10 n).take point.toNat, '.' :: (Nat.toDigits 10 n).drop point.toNat, [],
        by simp, wholePart_of_head hn ⟨?_, fun c hc => hdigits c (List.mem_of_mem_take hc)⟩ ?_,
        .some ⟨?_, fun c hc => hdigits c (List.mem_of_mem_drop hc)⟩, .none⟩
      · simp only [ne_eq, List.take_eq_nil_iff, hne, or_false]
        omega
      · rw [List.head?_take, if_neg (by omega)]
      · simp only [ne_eq, List.drop_eq_nil_iff]
        omega

/-- A digit, a fraction and an exponent. -/
theorem numeric_exponent (n : Nat) (power : Int) :
    Numeric (Decimal.exponentText true (Nat.toDigits 10 n) power).toList := by
  obtain ⟨c, ds, hds, hc⟩ := toDigits_head n
  have hdigits (d : Char) (hd : d ∈ ds) : isDigit d = true :=
    isDigit_toDigits (hds ▸ List.mem_cons_of_mem c hd)
  refine ⟨[c], if ds = [] then [] else '.' :: ds,
    'e' :: (if power < 0 then '-' else '+') :: Nat.toDigits 10 power.natAbs, ?_,
    ⟨⟨by simp, by simpa using hc⟩, by simp⟩, ?_, .some ?_ (digits_toDigits _)⟩
  · have hsign : (if power < 0 then "-" else "+").toList = [if power < 0 then '-' else '+'] := by
      split <;> rfl
    have hfraction : (if 1 < (c :: ds).length then '.' :: (c :: ds).drop 1 else []) =
        if ds = [] then [] else '.' :: ds := by cases ds <;> simp
    simp only [Decimal.exponentText, hds, hfraction, String.toList_append, String.toList_ofList,
      Nat.toString_eq_repr, Nat.toList_repr, List.take_succ_cons, List.take_zero]
    simp [hsign]
  · split
    next => exact .none
    next hne => exact .some ⟨hne, hdigits⟩
  · split <;> simp

/-- Whichever way the digits are laid out. -/
theorem numeric_layout {d : Decimal} (hd : d.Leads) (fits : Bool) :
    let digits := Nat.toDigits 10 d.digits
    let power := d.exponent + digits.length - 1
    Numeric (if fits = true then Decimal.positionalText true digits (power + 1)
      else Decimal.exponentText true digits power).toList := by
  dsimp only
  cases fits with
  | true => exact numeric_positional (hd.imp_right fun hneg => by omega)
  | false => exact numeric_exponent d.digits _

theorem numeric_magnitude (significand : Nat) (exponent : Int) :
    Numeric (Decimal.json.magnitude significand exponent).toList := by
  unfold Decimal.Layout.magnitude
  split
  next =>
    exact ⟨['0'], ['.', '0'], [], rfl, wholePart_toDigits 0, .some (digits_toDigits 0), .none⟩
  next hzero => exact numeric_layout (Decimal.shortest_leads hzero exponent) _

/-- A double that is a number is written as a number, after a sign if it is negative. -/
theorem numeric_double {x : Double} (h : x.isFinite = true) :
    ∃ s, Numeric s ∧ (chars (.double x) = s ∨ chars (.double x) = '-' :: s) := by
  obtain ⟨negative, significand, exponent, hx⟩ := Double.form_of_isFinite h
  refine ⟨_, numeric_magnitude significand exponent, ?_⟩
  rw [chars, Decimal.Layout.text, hx]
  cases negative with
  | false => exact .inl (by simp)
  | true => exact .inr (by simp)

theorem numeric_integer (n : Int) :
    ∃ s, Numeric s ∧ (chars (.integer n) = s ∨ chars (.integer n) = '-' :: s) := by
  rw [chars_integer]
  split
  · exact ⟨_, numeric_toDigits _, .inl rfl⟩
  · exact ⟨_, numeric_toDigits _, .inr rfl⟩

/-! ### Passing over numbers -/

/-- No digit comes next. -/
def Stops (s : List Char) : Prop := ∀ c ∈ s.head?, isDigit c = false

variable {s rest : List Char}

theorem stops_of_closes (h : Closes rest) : Stops rest := by
  match rest, h with
  | [], _ => simp [Stops]
  | c :: s, h => rcases h with rfl | rfl | rfl <;> simp [Stops] <;> rfl

/-- Digits go up to where no digit comes next. -/
theorem digits_stops (hs : ∀ c ∈ s, isDigit c = true) (hr : Stops rest) :
    (s ++ rest).takeWhile isDigit = s ∧ (s ++ rest).dropWhile isDigit = rest := by
  have hrest : rest.takeWhile isDigit = [] ∧ rest.dropWhile isDigit = rest := by
    cases rest with
    | nil => exact ⟨rfl, rfl⟩
    | cons a t => simp [hr a rfl]
  rw [List.takeWhile_append_of_pos hs, List.dropWhile_append_of_pos hs, hrest.1, hrest.2,
    List.append_nil]
  exact ⟨rfl, rfl⟩

theorem skipDigits_digits (hs : Digits s) (hr : Stops rest) :
    skipDigits (s ++ rest) = .ok rest := by
  obtain ⟨c, ds, rfl⟩ := List.exists_cons_of_ne_nil hs.1
  obtain ⟨-, hdrop⟩ := digits_stops (fun d hd => hs.2 d (List.mem_cons_of_mem c hd)) hr
  rw [List.cons_append, skipDigits, if_pos (hs.2 c List.mem_cons_self), hdrop]

theorem skipExponent_part (hs : ExponentPart s) (hr : Closes rest) :
    skipExponent (s ++ rest) = .ok rest := by
  cases hs with
  | none =>
    match rest, hr with
    | [], _ => rfl
    | c :: t, hr => rcases hr with rfl | rfl | rfl <;> rfl
  | some hsign hdigits =>
    have hskip := skipDigits_digits hdigits (stops_of_closes hr)
    rcases hsign with rfl | rfl <;> exact hskip

theorem stops_exponent (hs : ExponentPart s) (hr : Closes rest) : Stops (s ++ rest) := by
  cases hs with
  | none => exact stops_of_closes hr
  | some => simp [Stops]; rfl

theorem stops_fraction (hs : FractionPart s) (hr : Stops rest) : Stops (s ++ rest) := by
  cases hs with
  | none => exact hr
  | some => simp [Stops]; rfl

/-- Passes over the digits before the point. -/
def skipWhole : List Char → Scan Cause (List Char)
  | '0' :: c :: s => if isDigit c then failIn .invalidNumber (c :: s) else .ok (c :: s)
  | s => skipDigits s

/-- Passes over a fraction and an exponent, if they are there. -/
def skipFraction : List Char → Scan Cause (List Char)
  | '.' :: s => (skipDigits s).bind skipExponent
  | s => skipExponent s

theorem skipNumber_eq (s : List Char) : skipNumber s = (skipWhole s).bind skipFraction := by
  by_cases hzero : ∃ c t, s = '0' :: c :: t
  · obtain ⟨c, t, rfl⟩ := hzero
    simp only [skipNumber, skipWhole]
    cases isDigit c <;> rfl
  · have hother (c : Char) (t : List Char) (hs : s = '0' :: c :: t) : False := hzero ⟨c, t, hs⟩
    rw [skipWhole, skipNumber]
    · rfl
    · exact hother
    · exact hother

theorem skipWhole_part (hs : WholePart s) (hr : Stops rest) :
    skipWhole (s ++ rest) = .ok rest := by
  by_cases hzero : s.head? = some '0'
  · rw [hs.2 hzero]
    cases rest with
    | nil => rfl
    | cons c t => exact if_neg (by simp [hr c rfl])
  · rw [skipWhole]
    · exact skipDigits_digits hs.1 hr
    · intro c t hct
      obtain ⟨d, ds, rfl⟩ := List.exists_cons_of_ne_nil hs.1.1
      exact hzero (congrArg List.head? hct)

theorem skipFraction_part {e : List Char} (hs : FractionPart s) (he : ExponentPart e)
    (hr : Closes rest) : skipFraction (s ++ (e ++ rest)) = .ok rest := by
  have hexponent := skipExponent_part he hr
  have hstops := stops_exponent he hr
  cases hs with
  | none =>
    cases he with
    | none =>
      match rest, hr with
      | [], _ => rfl
      | c :: t, hr => rcases hr with rfl | rfl | rfl <;> rfl
    | some => exact hexponent
  | some hdigits =>
    rw [List.cons_append, skipFraction, skipDigits_digits hdigits hstops]
    exact hexponent

/-- A number is passed over up to what closes it. -/
theorem skipNumber_numeric (hs : Numeric s) (hr : Closes rest) :
    skipNumber (s ++ rest) = .ok rest := by
  obtain ⟨whole, fraction, exponent, rfl, hwhole, hfraction, hexponent⟩ := hs
  have hstops := stops_fraction hfraction (stops_exponent hexponent hr)
  rw [List.append_assoc, List.append_assoc, skipNumber_eq, skipWhole_part hwhole hstops]
  exact skipFraction_part hfraction hexponent hr

end Json

end Attest
