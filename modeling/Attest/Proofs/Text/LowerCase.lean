import Mathlib.Data.List.Forall2
import Mathlib.Data.List.TakeWhile
import Attest.Proofs.Text.Utf8
import Attest.Unicode.CaseMap

/-!
Texts in lower case.

Of the characters with one lower-case mapping, those that differ are all cased and none is passed
over in the search for a cased one (`SameLower.eq_or_letters`). So words end at the same places of
texts whose characters have the same mappings one by one, and their lower case is the same but where
a capital sigma ends a word and another character stands for it in the other text
(`lowerAfter_eq_iff`).
-/

namespace Attest.Unicode

/-! ### Ranges -/

/-- One of the ranges has everything from `lo` to `hi`. Numbers are compared by functions that are
fast to evaluate, here and below, for long tables. -/
def spans (lo hi : Nat) : List (Nat × Nat) → Bool
  | [] => false
  | (a, b) :: rest => bif lo.blt a then false else hi.ble b || spans lo hi rest

/-- None of the ranges has anything from `lo` to `hi`. -/
def misses (lo hi : Nat) : List (Nat × Nat) → Bool
  | [] => true
  | (a, b) :: rest => bif hi.blt a then true else b.blt lo && misses lo hi rest

section Ranges

variable {lo hi n : Nat} {ranges : List (Nat × Nat)}

theorem inRanges_of_spans (hlo : lo ≤ n) (hhi : n ≤ hi) (h : spans lo hi ranges = true) :
    CodeSet.inRanges n ranges = true := by
  induction ranges with
  | nil => cases h
  | cons r rest ih =>
    obtain ⟨a, b⟩ := r
    cases hstart : lo.blt a with
    | true =>
      rw [spans, hstart] at h
      cases h
    | false =>
      have hle : ¬ lo < a := by rw [← Nat.blt_eq, hstart]; exact Bool.false_ne_true
      rw [spans, hstart, cond_false, Bool.or_eq_true, Nat.ble_eq] at h
      rw [CodeSet.inRanges, if_neg (by omega), Bool.or_eq_true, decide_eq_true_eq]
      exact h.imp (fun hend => by omega) ih

theorem inRanges_of_misses (hlo : lo ≤ n) (hhi : n ≤ hi) (h : misses lo hi ranges = true) :
    CodeSet.inRanges n ranges = false := by
  induction ranges with
  | nil => rfl
  | cons r rest ih =>
    obtain ⟨a, b⟩ := r
    cases hstart : hi.blt a with
    | true =>
      have hlt : hi < a := Nat.blt_eq.mp hstart
      exact if_pos (by omega)
    | false =>
      rw [misses, hstart, cond_false, Bool.and_eq_true, Nat.blt_eq] at h
      rw [CodeSet.inRanges, ih h.2, decide_eq_false (by omega)]
      exact ite_self _

end Ranges

/-! ### Letters -/

/-- The code point has a case, and is not passed over in the search for one that has. -/
structure Letter (n : Nat) : Prop where
  cased : cased.containsCode n = true
  notIgnorable : caseIgnorable.containsCode n = false

/-- The code points of a run are letters, and what they are mapped to are letters too. Where a run
goes beyond one range of cased code points, its own are looked at one by one. -/
def CaseRun.ofLetters (r : CaseRun) : Bool :=
  let reach := r.target + (r.last - r.first)
  (spans r.first r.last cased.ranges || r.pairs.all fun p => cased.containsCode p.1) &&
    misses r.first r.last caseIgnorable.ranges && spans r.target reach cased.ranges &&
    misses r.target reach caseIgnorable.ranges &&
    (reach < 0xD800 || 0xDFFF < r.target && reach < 0x110000)

theorem ofLetters_of_mem : ∀ r ∈ lowerRuns, r.ofLetters = true := by
  have hall : (lowerRuns.all CaseRun.ofLetters) = true := by decide +kernel
  exact List.all_eq_true.mp hall

theorem CaseRun.mem_pairs {r : CaseRun} {n m : Nat} (h : r.image? n = some m) :
    (n, m) ∈ r.pairs := by
  unfold image? at h
  split at h
  next hn =>
    obtain ⟨hfirst, hlast, hstep⟩ := hn
    have hmul : (n - r.first) / r.step * r.step = n - r.first :=
      Nat.div_mul_cancel (Nat.dvd_of_mod_eq_zero hstep)
    have hcount : (n - r.first) / r.step < (r.last - r.first) / r.step + 1 :=
      Nat.lt_succ_of_le (Nat.div_le_div_right (by omega))
    refine List.mem_map.mpr ⟨(n - r.first) / r.step, List.mem_range.mpr hcount, ?_⟩
    rw [hmul]
    cases h
    exact congrArg₂ Prod.mk (by omega) (by omega)
  next => cases h

theorem CaseRun.letters_of_image {r : CaseRun} {n m : Nat} (hr : r.ofLetters = true)
    (h : r.image? n = some m) : Letter n ∧ Letter m ∧ m.isValidChar := by
  have hpair := mem_pairs h
  simp only [ofLetters, Bool.and_eq_true, Bool.or_eq_true, decide_eq_true_eq,
    List.all_eq_true] at hr
  obtain ⟨⟨⟨⟨hsource, hpassed⟩, htarget⟩, hpassed'⟩, hvalid⟩ := hr
  unfold image? at h
  split at h
  next hn =>
    cases h
    have hcased : cased.containsCode n = true := by
      rcases hsource with hspan | heach
      · exact inRanges_of_spans hn.1 hn.2.1 hspan
      · exact heach _ hpair
    refine ⟨⟨hcased, inRanges_of_misses hn.1 hn.2.1 hpassed⟩,
      ⟨inRanges_of_spans (by omega) (by omega) htarget,
        inRanges_of_misses (by omega) (by omega) hpassed'⟩, ?_⟩
    unfold Nat.isValidChar
    omega
  next => cases h

/-- A code point is its own lower case, or a letter as this is. -/
theorem lookup_lower (n : Nat) : CaseRun.lookup lowerRuns n = n ∨
    Letter n ∧ Letter (CaseRun.lookup lowerRuns n) ∧
      (CaseRun.lookup lowerRuns n).isValidChar := by
  unfold CaseRun.lookup
  cases h : lowerRuns.findSome? fun r => r.image? n with
  | none => exact .inl rfl
  | some m =>
    obtain ⟨r, hr, hm⟩ := List.exists_of_findSome?_eq_some h
    exact .inr (CaseRun.letters_of_image (ofLetters_of_mem r hr) hm)

/-! ### Characters with the same mapping -/

/-- The characters have the same lower-case mapping. -/
def SameLower (c d : Char) : Prop := lowerChar c = lowerChar d

section Characters

variable {c d : Char}

theorem lowerChar_of_ne (h : c ≠ '\u0130') :
    lowerChar c = [Char.ofNat (CaseRun.lookup lowerRuns c.toNat)] := if_neg h

/-- The dotted capital I is alone with its two characters. -/
theorem SameLower.eq_of_dotted (h : SameLower '\u0130' d) : d = '\u0130' := by
  by_contra hd
  have hlength := congrArg List.length (h.trans (lowerChar_of_ne hd))
  cases hlength

theorem SameLower.symm (h : SameLower c d) : SameLower d c := Eq.symm h

/-- A character that is its own lower case and that of another one is a letter. -/
theorem letter_of_ofNat {m : Nat} (h : Char.ofNat c.toNat = Char.ofNat m) (hm : Letter m)
    (hvalid : m.isValidChar) : Letter c.toNat := by
  have hsame : c.toNat = m := by
    rw [← Text.Utf8.val_ofNat hvalid, ← h, Char.ofNat_toNat]
    rfl
  rwa [hsame]

/-- Different characters with the same mapping are letters. -/
theorem SameLower.eq_or_letters (h : SameLower c d) :
    c = d ∨ Letter c.toNat ∧ Letter d.toNat := by
  by_cases hc : c = '\u0130'
  · subst hc
    exact .inl h.eq_of_dotted.symm
  by_cases hd : d = '\u0130'
  · subst hd
    exact .inl h.symm.eq_of_dotted
  have hsame : Char.ofNat (CaseRun.lookup lowerRuns c.toNat) =
      Char.ofNat (CaseRun.lookup lowerRuns d.toNat) := by
    have hlists := (lowerChar_of_ne hc).symm.trans (Eq.trans h (lowerChar_of_ne hd))
    exact (List.cons.inj hlists).1
  rcases lookup_lower c.toNat with hown | ⟨hletter, htarget, hvalid⟩
  · rw [hown] at hsame
    rcases lookup_lower d.toNat with hown' | ⟨hletter', htarget', hvalid'⟩
    · rw [hown', Char.ofNat_toNat, Char.ofNat_toNat] at hsame
      exact .inl hsame
    · exact .inr ⟨letter_of_ofNat hsame htarget' hvalid', hletter'⟩
  · rcases lookup_lower d.toNat with hown' | ⟨hletter', htarget', hvalid'⟩
    · rw [hown'] at hsame
      exact .inr ⟨hletter, letter_of_ofNat hsame.symm htarget hvalid⟩
    · exact .inr ⟨hletter, hletter'⟩

theorem SameLower.isCased_eq (h : SameLower c d) : isCased c = isCased d := by
  rcases h.eq_or_letters with rfl | ⟨hc, hd⟩
  · rfl
  · exact hc.cased.trans hd.cased.symm

theorem SameLower.isCaseIgnorable_eq (h : SameLower c d) :
    isCaseIgnorable c = isCaseIgnorable d := by
  rcases h.eq_or_letters with rfl | ⟨hc, hd⟩
  · rfl
  · exact hc.notIgnorable.trans hd.notIgnorable.symm

end Characters

/-! ### Ends of words -/

section Words

variable {cs ds before before' : List Char}

theorem startsCased_eq (h : List.Forall₂ SameLower cs ds) : startsCased cs = startsCased ds := by
  induction h with
  | nil => rfl
  | @cons c d cs ds hcd _ ih =>
    unfold startsCased
    rw [List.dropWhile_cons, List.dropWhile_cons, hcd.isCaseIgnorable_eq]
    cases isCaseIgnorable d with
    | true => exact ih
    | false => exact hcd.isCased_eq

/-- Where there is nothing but what is passed over, the search goes on. -/
theorem startsCased_append (cs ds : List Char) : startsCased (cs ++ ds) =
    if cs.all isCaseIgnorable then startsCased ds else startsCased cs := by
  induction cs with
  | nil => rfl
  | cons c cs ih =>
    unfold startsCased at ih ⊢
    rw [List.cons_append, List.dropWhile_cons, List.dropWhile_cons, List.all_cons]
    cases isCaseIgnorable c with
    | true => exact ih
    | false => rfl

/-- A word ends with the character at this place: a cased character stands before it and none after
it, where what is between them and the character is passed over. What precedes the characters is
given last character first. -/
structure EndsWord (before cs : List Char) (i : Nat) : Prop where
  cased : startsCased ((cs.take i).reverse ++ before) = true
  uncased : startsCased (cs.drop (i + 1)) = false

theorem endsWord_succ {c : Char} {i : Nat} :
    EndsWord before (c :: cs) (i + 1) ↔ EndsWord (c :: before) cs i := by
  constructor <;> rintro ⟨hcased, huncased⟩ <;> exact ⟨by simpa using hcased, huncased⟩

/-- Only with what stands before it does a word end at this place: a cased character stands there,
and nothing but what is passed over between it and the place. -/
structure Seam (before cs : List Char) (i : Nat) : Prop where
  cased : startsCased before = true
  passed : (cs.take i).all isCaseIgnorable = true
  uncased : startsCased (cs.drop (i + 1)) = false

section Joined

variable {i : Nat}

/-- A word that ends before something else ends without it too. -/
theorem EndsWord.of_append (h : EndsWord before (cs ++ ds) i) (hi : i < cs.length) :
    EndsWord before cs i := by
  obtain ⟨hcased, huncased⟩ := h
  rw [List.take_append_of_le_length (Nat.le_of_lt hi)] at hcased
  rw [List.drop_append_of_le_length hi, startsCased_append] at huncased
  refine ⟨hcased, ?_⟩
  split at huncased
  next hall =>
    unfold startsCased
    rw [List.dropWhile_eq_nil_iff.mpr (List.all_eq_true.mp hall)]
  next => exact huncased

theorem endsWord_append :
    EndsWord [] (cs ++ ds) (cs.length + i) ↔ EndsWord cs.reverse ds i := by
  have htake : ((cs ++ ds).take (cs.length + i)).reverse ++ [] =
      (ds.take i).reverse ++ cs.reverse := by
    rw [List.take_length_add_append, List.reverse_append, List.append_nil]
  have hdrop : (cs ++ ds).drop (cs.length + i + 1) = ds.drop (i + 1) := by
    rw [Nat.add_assoc, List.drop_length_add_append]
  constructor
  · rintro ⟨hcased, huncased⟩
    rw [htake] at hcased
    rw [hdrop] at huncased
    exact ⟨hcased, huncased⟩
  · rintro ⟨hcased, huncased⟩
    refine ⟨?_, ?_⟩
    · rwa [htake]
    · rwa [hdrop]

/-- A word ends at a place by itself or with what stands before. -/
theorem endsWord_iff_seam : EndsWord before cs i ↔
    Seam before cs i ∨ (cs.take i).all isCaseIgnorable = false ∧ EndsWord [] cs i := by
  have hbefore := startsCased_append (cs.take i).reverse before
  rw [List.all_reverse] at hbefore
  cases hall : (cs.take i).all isCaseIgnorable with
  | true =>
    rw [hall, if_pos rfl] at hbefore
    constructor
    · rintro ⟨hcased, huncased⟩
      exact .inl ⟨hbefore ▸ hcased, hall, huncased⟩
    · rintro (⟨hcased, -, huncased⟩ | ⟨hnot, -⟩)
      · exact ⟨hbefore.trans hcased, huncased⟩
      · cases hnot
  | false =>
    rw [hall, if_neg Bool.false_ne_true] at hbefore
    constructor
    · rintro ⟨hcased, huncased⟩
      refine .inr ⟨rfl, ?_, huncased⟩
      rwa [List.append_nil, ← hbefore]
    · rintro (⟨-, hpassed, -⟩ | ⟨-, hcased, huncased⟩)
      · cases hall.symm.trans hpassed
      · rw [List.append_nil] at hcased
        exact ⟨hbefore.trans hcased, huncased⟩

end Joined

/-! ### Lower case -/

/-- Lower case of a character with what stands before it, last character first, and after it. -/
def lowerHere (before : List Char) (c : Char) (rest : List Char) : List Char :=
  if c = 'Σ' then [if startsCased before && !startsCased rest then 'ς' else 'σ'] else lowerChar c

theorem lowerAfter_cons (before : List Char) (c : Char) (rest : List Char) :
    lowerAfter before (c :: rest) = lowerHere before c rest ++ lowerAfter (c :: before) rest := rfl

theorem lowerChar_sigma : lowerChar 'Σ' = ['σ'] := by decide +kernel

theorem length_lowerHere (before : List Char) (c : Char) (rest : List Char) :
    (lowerHere before c rest).length = (lowerChar c).length := by
  unfold lowerHere
  split
  next h =>
    subst h
    rw [lowerChar_sigma]
    rfl
  next => rfl

variable {c d : Char}

/-- The lower case of two characters differs where one alone is a capital sigma and a word ends. -/
theorem lowerHere_eq_iff (hcd : SameLower c d) (hbefore : startsCased before = startsCased before')
    (hafter : startsCased cs = startsCased ds) :
    lowerHere before c cs = lowerHere before' d ds ↔
      (EndsWord before (c :: cs) 0 → (c = 'Σ' ↔ d = 'Σ')) := by
  have hends : EndsWord before (c :: cs) 0 ↔ (startsCased before' && !startsCased ds) = true := by
    rw [← hbefore, ← hafter, Bool.and_eq_true, Bool.not_eq_true']
    exact ⟨fun h => ⟨h.cased, h.uncased⟩, fun h => ⟨h.1, h.2⟩⟩
  unfold lowerHere
  rw [hends, hbefore, hafter]
  by_cases hc : c = 'Σ' <;> by_cases hd : d = 'Σ'
  · simp [hc, hd]
  · have hd' : lowerChar d = ['σ'] := by rw [← hcd, hc, lowerChar_sigma]
    cases startsCased before' && !startsCased ds <;> simp [hc, hd, hd']
  · have hc' : lowerChar c = ['σ'] := by rw [hcd, hd, lowerChar_sigma]
    cases startsCased before' && !startsCased ds <;> simp [hc, hd, hc']
  · simp [hc, hd, show lowerChar c = lowerChar d from hcd]

/-- The lower case of two texts with the same mappings, character by character, is the same where no
word ends with a capital sigma of one that is none of the other. -/
theorem lowerAfter_eq_iff (h : List.Forall₂ SameLower cs ds)
    (hbefore : List.Forall₂ SameLower before before') :
    lowerAfter before cs = lowerAfter before' ds ↔
      ∀ i, EndsWord before cs i → (cs[i]? = some 'Σ' ↔ ds[i]? = some 'Σ') := by
  induction h generalizing before before' with
  | nil => simp [lowerAfter]
  | @cons c d cs ds hcd hrest ih =>
    have hlength : (lowerHere before c cs).length = (lowerHere before' d ds).length := by
      rw [length_lowerHere, length_lowerHere, show lowerChar c = lowerChar d from hcd]
    rw [lowerAfter_cons, lowerAfter_cons, List.append_eq_append_iff_of_size_eq_left hlength,
      lowerHere_eq_iff hcd (startsCased_eq hbefore) (startsCased_eq hrest),
      ih (.cons hcd hbefore)]
    refine Iff.trans ?_ Nat.and_forall_add_one
    simp only [List.getElem?_cons_zero, Option.some.injEq, List.getElem?_cons_succ, endsWord_succ]

end Words

end Attest.Unicode
