import Attest.Proofs.Json.Members

/-!
Equality of arrays and objects, part by part.

Arrays are equal exactly if they are of one length and hold equal items at each index
(`eqvItems_iff`), and objects if they have the same names and hold equal values under each of them
(`eqvMembers_iff`).
-/

namespace Attest.Json

theorem eqvItems_iff : ∀ {as bs : List Json}, eqvItems as bs = true ↔
    as.length = bs.length ∧
      ∀ (i : Nat) (w : Json), bs[i]? = some w → ∃ v, as[i]? = some v ∧ eqv v w = true
  | [], [] => by simp [eqvItems]
  | [], _ :: _ | _ :: _, [] => by simp [eqvItems]
  | a :: as, b :: bs => by
    rw [eqvItems, Bool.and_eq_true, eqvItems_iff]
    constructor
    · rintro ⟨hfirst, hlength, hitems⟩
      refine ⟨congrArg (· + 1) hlength, fun i w hw => ?_⟩
      cases i with
      | zero =>
        obtain rfl : b = w := Option.some.inj hw
        exact ⟨a, rfl, hfirst⟩
      | succ i => exact hitems i w hw
    · rintro ⟨hlength, hitems⟩
      obtain ⟨v, hv, hfirst⟩ := hitems 0 b rfl
      obtain rfl : a = v := Option.some.inj hv
      exact ⟨hfirst, Nat.succ.inj hlength, fun i w hw => hitems (i + 1) w hw⟩

section Members

variable {as bs : List (String × Json)}

theorem keys_of_eqvMembers : ∀ {as bs : List (String × Json)}, eqvMembers as bs = true →
    keys as = keys bs
  | [], [], _ => rfl
  | [], _ :: _, h | _ :: _, [], h => by simp [eqvMembers] at h
  | (j, a) :: as, (k, b) :: bs, h => by
    simp only [eqvMembers, Bool.and_eq_true, beq_iff_eq] at h
    exact congrArg₂ List.cons h.1.1 (keys_of_eqvMembers h.2)

/-- Objects with the same names, each once, are equal where what is under each name is. -/
theorem eqvMembers_iff_lookup : ∀ {as bs : List (String × Json)}, keys as = keys bs →
    (keys as).Nodup →
    (eqvMembers as bs = true ↔
      ∀ k w, bs.lookup k = some w → ∃ v, as.lookup k = some v ∧ eqv v w = true)
  | [], [], _, _ => by simp [eqvMembers]
  | [], _ :: _, h, _ | _ :: _, [], h, _ => by simp [keys] at h
  | (j, a) :: as, (k, b) :: bs, h, hnodup => by
    obtain ⟨rfl, hkeys⟩ : j = k ∧ keys as = keys bs := List.cons.inj h
    obtain ⟨hnew, hrest⟩ := List.nodup_cons.mp hnodup
    rw [eqvMembers, Bool.and_eq_true, Bool.and_eq_true, eqvMembers_iff_lookup hkeys hrest]
    constructor
    · rintro ⟨⟨-, hfirst⟩, hmembers⟩ k w hw
      by_cases hk : k = j
      · subst hk
        have hbw : b = w := by simpa using hw
        exact ⟨a, by simp, hbw ▸ hfirst⟩
      · rw [lookup_cons_of_ne hk] at hw ⊢
        exact hmembers k w hw
    · intro hmembers
      obtain ⟨v, hv, hfirst⟩ := hmembers j b (by simp)
      have hav : a = v := by simpa using hv
      refine ⟨⟨beq_self_eq_true j, hav ▸ hfirst⟩, fun k w hw => ?_⟩
      -- the first name is none of the others
      have hk : k ≠ j := by
        rintro rfl
        have hmem : k ∈ keys as := by
          rw [hkeys]
          exact mem_keys_iff.mpr ⟨w, hw⟩
        exact hnew hmem
      have hmember := hmembers k w (by rwa [lookup_cons_of_ne hk])
      rwa [lookup_cons_of_ne hk] at hmember

theorem eqvMembers_iff (h : Increasing (keys as)) (h' : Increasing (keys bs)) :
    eqvMembers as bs = true ↔ (∀ k, k ∈ keys as ↔ k ∈ keys bs) ∧
      ∀ k w, bs.lookup k = some w → ∃ v, as.lookup k = some v ∧ eqv v w = true := by
  constructor
  · intro heqv
    have hkeys := keys_of_eqvMembers heqv
    exact ⟨fun k => by rw [hkeys], (eqvMembers_iff_lookup hkeys h.nodup).mp heqv⟩
  · rintro ⟨hmem, hmembers⟩
    have hkeys := h.eq_of_mem_iff h' hmem
    exact (eqvMembers_iff_lookup hkeys h.nodup).mpr hmembers

end Members

end Attest.Json
