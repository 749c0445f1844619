import Attest.Proofs.Subject.Calls
import Attest.Proofs.Text.LowerCase

/-!
Equality of texts in lower case.

Whole texts are put in lower case and compared, and the lower case of a capital sigma depends on
what stands around it: at the end of a word it is the final sigma. So texts whose characters have
the same mappings one by one are equal but where a capital sigma ends a word of one of them and is
none in the other (`Subject.equal_fold_up_to_final_sigma`).
-/

namespace Attest

open Unicode (SameLower EndsWord Seam toLower lowerAfter lowerAfter_eq_iff endsWord_append
  endsWord_iff_seam)

/-- The characters of the texts have the same lower-case mappings, one by one. -/
def SameLetters (a b : String) : Prop := List.Forall₂ SameLower a.toList b.toList

instance : DecidableRel SameLower := fun c d =>
  inferInstanceAs (Decidable (Unicode.lowerChar c = Unicode.lowerChar d))

instance (a b : String) : Decidable (SameLetters a b) :=
  inferInstanceAs (Decidable (List.Forall₂ SameLower a.toList b.toList))

/-- At this place a capital sigma of one of the texts is none in the other. -/
def SigmaDiffers (a b : String) (i : Nat) : Prop :=
  ¬ (a.toList[i]? = some 'Σ' ↔ b.toList[i]? = some 'Σ')

/-- The sigma ends a word, so that it is put in lower case in one way or the other. -/
structure SigmaClash (a b : String) (i : Nat) : Prop where
  ends : EndsWord [] a.toList i
  differs : SigmaDiffers a b i

section Texts

variable {a b a' b' : String} {i : Nat}

theorem SameLetters.append (h : SameLetters a b) (h' : SameLetters a' b') :
    SameLetters (a ++ a') (b ++ b') := by
  unfold SameLetters
  rw [String.toList_append, String.toList_append]
  exact List.rel_append h h'

theorem toLower_eq_iff (h : SameLetters a b) : toLower a = toLower b ↔ ∀ i, ¬ SigmaClash a b i := by
  have hlists : toLower a = toLower b ↔ lowerAfter [] a.toList = lowerAfter [] b.toList :=
    String.ofList_inj
  rw [hlists, lowerAfter_eq_iff h .nil]
  constructor
  · rintro hsame i ⟨hends, hdiffers⟩
    exact hdiffers (hsame i hends)
  · intro hclash i hends
    by_contra hdiffers
    exact hclash i ⟨hends, hdiffers⟩

/-- A clash in the first of two texts that are joined was there before. -/
theorem SigmaClash.of_left (h : SigmaClash (a ++ a') (b ++ b') i) (hab : SameLetters a b)
    (hi : i < a.toList.length) : SigmaClash a b i := by
  obtain ⟨hends, hdiffers⟩ := h
  have hi' : i < b.toList.length := by rwa [← hab.length_eq]
  unfold SigmaDiffers at hdiffers
  rw [String.toList_append] at hends
  rw [String.toList_append, String.toList_append, List.getElem?_append_left hi,
    List.getElem?_append_left hi'] at hdiffers
  exact ⟨hends.of_append hi, hdiffers⟩

/-- In the second one, what stands before its places is the first. -/
theorem sigmaClash_right (hab : SameLetters a b) :
    SigmaClash (a ++ a') (b ++ b') (a.toList.length + i) ↔
      EndsWord a.toList.reverse a'.toList i ∧ SigmaDiffers a' b' i := by
  have hdiffers : SigmaDiffers (a ++ a') (b ++ b') (a.toList.length + i) ↔ SigmaDiffers a' b' i := by
    unfold SigmaDiffers
    rw [String.toList_append, String.toList_append, List.getElem?_append_right (by omega),
      hab.length_eq, List.getElem?_append_right (by omega), Nat.add_sub_cancel_left]
  rw [← endsWord_append, ← hdiffers, ← String.toList_append]
  exact ⟨fun h => ⟨h.ends, h.differs⟩, fun h => ⟨h.1, h.2⟩⟩

/-- Texts that are equal in lower case are so when they are joined, but for a capital sigma that
ends a word only with what stands before it. -/
theorem toLower_append_eq_iff (hab : SameLetters a b) (hab' : SameLetters a' b')
    (h : toLower a = toLower b) (h' : toLower a' = toLower b') :
    toLower (a ++ a') = toLower (b ++ b') ↔
      ∀ i, Seam a.toList.reverse a'.toList i → ¬ SigmaDiffers a' b' i := by
  rw [toLower_eq_iff hab] at h
  rw [toLower_eq_iff hab'] at h'
  rw [toLower_eq_iff (hab.append hab')]
  constructor
  · intro hjoined i hseam hdiffers
    exact hjoined _ ((sigmaClash_right hab).mpr ⟨endsWord_iff_seam.mpr (.inl hseam), hdiffers⟩)
  · intro hseam i hclash
    rcases Nat.lt_or_ge i a.toList.length with hleft | hright
    · exact h i (hclash.of_left hab hleft)
    · obtain ⟨j, rfl⟩ := Nat.exists_eq_add_of_le hright
      obtain ⟨hends, hdiffers⟩ := (sigmaClash_right hab).mp hclash
      rcases endsWord_iff_seam.mp hends with hnew | ⟨-, hold⟩
      · exact hseam j hnew hdiffers
      · exact h' j ⟨hold, hdiffers⟩

end Texts

namespace Subject

variable {a b : String} {c : Chain}

theorem passes_equalFold (hok : c.failed = false) :
    (text a).Passes [] (.checkText (.equalFold b)) c ↔ toLower a = toLower b :=
  (passes_iff hok rfl rfl).trans beq_iff_eq

theorem fails_equalFold (hok : c.failed = false) :
    (text a).Fails [] (.checkText (.equalFold b)) c ↔ toLower a ≠ toLower b :=
  (fails_check_iff hok rfl rfl).trans beq_eq_false_iff_ne

/-- CORRECT. Of texts whose characters have the same lower-case mappings one by one, one passes the
check for the other on an OK chain exactly if no word ends with a capital sigma that is none in the
other, and fails it with a mismatch elsewhere. Two such texts that pass also pass joined to two
others that pass, unless the first ends with a cased character and the other begins with a capital
sigma that ends a word and is none opposite; characters that the search for a cased one passes over
may stand between. -/
theorem equal_fold_up_to_final_sigma (a b : String) (c : Chain) (hok : c.failed = false)
    (hab : SameLetters a b) :
    ((text a).Passes [] (.checkText (.equalFold b)) c ↔ ∀ i, ¬ SigmaClash a b i) ∧
    ((text a).Fails [] (.checkText (.equalFold b)) c ↔ ∃ i, SigmaClash a b i) ∧
    ∀ a' b', SameLetters a' b' → (text a).Passes [] (.checkText (.equalFold b)) c →
      (text a').Passes [] (.checkText (.equalFold b')) c →
      ((text (a ++ a')).Passes [] (.checkText (.equalFold (b ++ b'))) c ↔
        ∀ i, Seam a.toList.reverse a'.toList i → ¬ SigmaDiffers a' b' i) := by
  refine ⟨(passes_equalFold hok).trans (toLower_eq_iff hab), ?_, fun a' b' hab' h h' => ?_⟩
  · rw [fails_equalFold hok, ne_eq, toLower_eq_iff hab, not_forall_not]
  · rw [passes_equalFold hok] at h h' ⊢
    exact toLower_append_eq_iff hab hab' h h'

/-- A word that begins with a capital sigma in one text alone, and ends with one in both. -/
theorem equal_fold_up_to_final_sigma_of_word :
    let c : Chain := { reporter := .recording }
    c.failed = false ∧ SameLetters "ΣΟΦΟΣ" "σοφοΣ" ∧
      (text "ΣΟΦΟΣ").Passes [] (.checkText (.equalFold "σοφοΣ")) c := by
  intro c
  have hletters : SameLetters "ΣΟΦΟΣ" "σοφοΣ" := by decide +kernel
  refine ⟨rfl, hletters, (equal_fold_up_to_final_sigma _ _ c rfl hletters).1.mpr ?_⟩
  rintro i ⟨⟨hcased, -⟩, hdiffers⟩
  rcases Nat.eq_zero_or_pos i with rfl | hpos
  · cases hcased
  · refine hdiffers ?_
    have hfirst : "ΣΟΦΟΣ".toList = ['Σ', 'Ο', 'Φ', 'Ο', 'Σ'] := rfl
    have hsecond : "σοφοΣ".toList = ['σ', 'ο', 'φ', 'ο', 'Σ'] := rfl
    rw [hfirst, hsecond]
    match i with
    | 1 | 2 | 3 | 4 => simp
    | i + 5 => rfl

/-- Two letters that pass one by one, and fail when they make a word: the last of them is put in
lower case as a final sigma in one of the words alone. -/
theorem equal_fold_breaks_at_final_sigma :
    ¬ (∀ (a b : String) (c : Chain), c.failed = false → SameLetters a b →
      (text a).Passes [] (.checkText (.equalFold b)) c) ∧
    ¬ (∀ (a b a' b' : String) (c : Chain), c.failed = false → SameLetters a b →
      SameLetters a' b' → (text a).Passes [] (.checkText (.equalFold b)) c →
      (text a').Passes [] (.checkText (.equalFold b')) c →
      (text (a ++ a')).Passes [] (.checkText (.equalFold (b ++ b'))) c) := by
  let c : Chain := { reporter := .recording }
  have hfails : toLower ("Α" ++ "Σ") ≠ toLower ("α" ++ "σ") := by decide +kernel
  constructor
  · intro h
    have hpasses := h ("Α" ++ "Σ") ("α" ++ "σ") c rfl (by decide +kernel)
    exact hfails ((passes_equalFold rfl).mp hpasses)
  · intro h
    have hfirst : toLower "Α" = toLower "α" := by decide +kernel
    have hlast : toLower "Σ" = toLower "σ" := by decide +kernel
    have hpasses := h "Α" "α" "Σ" "σ" c rfl (by decide +kernel) (by decide +kernel)
      ((passes_equalFold rfl).mpr hfirst) ((passes_equalFold rfl).mpr hlast)
    exact hfails ((passes_equalFold rfl).mp hpasses)

end Subject

end Attest
