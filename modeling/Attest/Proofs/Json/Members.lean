import Mathlib.Data.List.Basic
import Mathlib.Data.List.Nodup
import Mathlib.Data.List.Perm.Basic
import Mathlib.Data.List.Induction
import Attest.Json.Basic
import Attest.Proofs.Text.Lookup

/-!
Members of objects.

Members in the order of their names are determined by what is found under each name
(`eq_of_lookup`). Putting members into this order keeps the names, each once, and of those with
equal names the last (`lookup_ofMembers`), so the order in which they came does not matter otherwise
(`ofMembers_perm`).
-/

namespace Attest.Json

/-! ### What is found under a name -/

theorem get?_eq_lookup (key : String) : ∀ ms : Members, get? key ms = ms.lookup key
  | [] => rfl
  | (k, v) :: rest => by
    rw [get?, List.lookup_cons, get?_eq_lookup key rest]
    by_cases h : k = key
    · simp [h]
    · have hne : (key == k) = false := by simpa using Ne.symm h
      simp [h, hne]

section Lookup

variable {k : String} {ms : List (String × Json)}

theorem lookup_eq_none_iff : ms.lookup k = none ↔ k ∉ keys ms := by
  simp only [List.lookup_eq_none_iff, keys, List.mem_map, not_exists, not_and]
  constructor
  · intro h m hm hk
    simpa [hk] using h m hm
  · intro h m hm
    simpa using Ne.symm (h m hm)

theorem mem_keys_iff : k ∈ keys ms ↔ ∃ v, ms.lookup k = some v := by
  rw [← Option.isSome_iff_exists, ← Option.ne_none_iff_isSome, Ne, lookup_eq_none_iff, not_not]

end Lookup

/-! ### Order -/

section Order

variable {k : String} {v : Json} {ms : Members}

/-- The names after the first are greater than it. -/
theorem Increasing.head_lt : ∀ {k : String} {ks : List String}, Increasing (k :: ks) →
    ∀ k' ∈ ks, k < k'
  | _, [], _ => by simp
  | k, a :: ks, h => by
    intro k' hk'
    rcases List.mem_cons.mp hk' with rfl | hmem
    · exact h.1
    · exact String.lt_trans h.1 (h.2.head_lt k' hmem)

theorem Increasing.tail : ∀ {k : String} {ks : List String}, Increasing (k :: ks) → Increasing ks
  | _, [], _ => trivial
  | _, _ :: _, h => h.2

theorem increasing_cons : ∀ {k : String} {ks : List String}, (∀ k' ∈ ks, k < k') →
    Increasing ks → Increasing (k :: ks)
  | _, [], _, _ => trivial
  | _, _ :: _, hlt, h => ⟨hlt _ List.mem_cons_self, h⟩

theorem Increasing.pairwise : ∀ {ks : List String}, Increasing ks → ks.Pairwise (· < ·)
  | [], _ => .nil
  | _ :: _, h => .cons h.head_lt h.tail.pairwise

theorem Increasing.nodup {ks : List String} (h : Increasing ks) : ks.Nodup :=
  h.pairwise.imp String.ne_of_lt

/-- Names in order are determined by what they are. -/
theorem Increasing.eq_of_mem_iff {ks ks' : List String} (h : Increasing ks) (h' : Increasing ks')
    (hmem : ∀ k, k ∈ ks ↔ k ∈ ks') : ks = ks' := by
  have hperm : ks.Perm ks' := (List.perm_ext_iff_of_nodup h.nodup h'.nodup).mpr hmem
  exact hperm.eq_of_pairwise (fun _ _ _ _ hlt hlt' => absurd hlt' (String.lt_asymm hlt))
    h.pairwise h'.pairwise

/-- Members in order are determined by what is found under each name. -/
theorem eq_of_lookup {ms ms' : Members} (h : Increasing (keys ms)) (h' : Increasing (keys ms'))
    (hlookup : ∀ k, ms.lookup k = ms'.lookup k) : ms = ms' := by
  have hmem (m : String × Json) : m ∈ ms ↔ m ∈ ms' := by
    rw [← lookup_eq_some_iff h.nodup, ← lookup_eq_some_iff h'.nodup, hlookup]
  have hperm : ms.Perm ms' :=
    (List.perm_ext_iff_of_nodup (h.nodup.of_map _) (h'.nodup.of_map _)).mpr hmem
  have hpairwise : ms.Pairwise fun m n => m.1 < n.1 := List.pairwise_map.mp h.pairwise
  have hpairwise' : ms'.Pairwise fun m n => m.1 < n.1 := List.pairwise_map.mp h'.pairwise
  exact hperm.eq_of_pairwise (fun _ _ _ _ hlt hlt' => absurd hlt' (String.lt_asymm hlt))
    hpairwise hpairwise'

end Order

/-! ### Putting members in order -/

section Insert

variable {j k : String} {v : Json} {ms : Members}

/-- A name after all others is put at the end. -/
theorem insert_last {k : String} (v : Json) : ∀ {ms : Members}, (∀ m ∈ ms, m.1 < k) →
    insert k v ms = ms ++ [(k, v)]
  | [], _ => rfl
  | (k', v') :: ms, h => by
    have hk : k' < k := h (k', v') List.mem_cons_self
    have hne : ¬ k = k' := fun he => String.lt_irrefl k (he ▸ hk)
    rw [insert, if_neg (String.lt_asymm hk), if_neg hne,
      insert_last v fun m hm => h m (List.mem_cons_of_mem _ hm)]
    rfl

theorem foldl_insert : ∀ (ms acc : Members), Increasing (keys ms) →
    (∀ a ∈ acc, ∀ m ∈ ms, a.1 < m.1) →
    ms.foldl (fun acc m => insert m.1 m.2 acc) acc = acc ++ ms
  | [], acc, _, _ => (List.append_nil acc).symm
  | (k, v) :: ms, acc, h, hacc => by
    have hlast := insert_last v fun a ha => hacc a ha (k, v) List.mem_cons_self
    rw [List.foldl_cons, hlast, foldl_insert ms _ h.tail, List.append_assoc]
    · rfl
    · intro a ha m hm
      rcases List.mem_append.mp ha with ha | ha
      · exact hacc a ha m (List.mem_cons_of_mem _ hm)
      · obtain rfl := List.mem_singleton.mp ha
        exact h.head_lt m.1 (List.mem_map_of_mem hm)

/-- Members that are in order stay as they are. -/
theorem ofMembers_of_increasing {ms : Members} (h : Increasing (keys ms)) : ofMembers ms = ms :=
  foldl_insert ms [] h (by simp)

/-- What is put under a name is found there, and all else as before. -/
theorem lookup_insert (j k : String) (v : Json) : ∀ ms : Members,
    (insert k v ms).lookup j = ((k, v) :: ms).lookup j
  | [] => rfl
  | (k', v') :: ms => by
    rw [insert]
    split
    · rfl
    split
    next heq =>
      subst heq
      by_cases hj : j = k
      · simp [hj]
      · simp only [lookup_cons_of_ne hj]
    next hne =>
      by_cases hj' : j = k'
      · have hj : j ≠ k := fun hj => hne (hj.symm.trans hj')
        rw [lookup_cons_of_ne hj, hj']
        simp
      · rw [lookup_cons_of_ne hj', lookup_insert j k v ms, List.lookup_cons, List.lookup_cons,
          lookup_cons_of_ne hj']

theorem mem_keys_insert : j ∈ keys (insert k v ms) ↔ j = k ∨ j ∈ keys ms := by
  rw [mem_keys_iff, lookup_insert, ← mem_keys_iff]
  exact List.mem_cons

theorem mem_of_mem_insert : ∀ {ms : Members} {m : String × Json}, m ∈ insert k v ms →
    m = (k, v) ∨ m ∈ ms
  | [], m, h => .inl (List.mem_singleton.mp h)
  | (k', v') :: ms, m, h => by
    rw [insert] at h
    split at h
    · exact List.mem_cons.mp h
    split at h
    · rcases List.mem_cons.mp h with rfl | hm
      · exact .inl rfl
      · exact .inr (List.mem_cons_of_mem _ hm)
    · rcases List.mem_cons.mp h with rfl | hm
      · exact .inr List.mem_cons_self
      · exact (mem_of_mem_insert hm).imp_right (List.mem_cons_of_mem _)

theorem increasing_insert : ∀ {ms : Members}, Increasing (keys ms) →
    Increasing (keys (insert k v ms))
  | [], _ => trivial
  | (k', v') :: ms, h => by
    rw [insert]
    split
    next hlt => exact ⟨hlt, h⟩
    next hnot =>
      split
      next heq => exact heq ▸ h
      next hne =>
        refine increasing_cons (fun j hj => ?_) (increasing_insert h.tail)
        rcases mem_keys_insert.mp hj with rfl | hmem
        · by_contra hback
          exact hne (String.le_antisymm (String.not_lt.mp hback) (String.not_lt.mp hnot))
        · exact h.head_lt j hmem

end Insert

section OfMembers

variable {ms ms' : List (String × Json)} {k : String}

theorem ofMembers_concat (ms : List (String × Json)) (m : String × Json) :
    ofMembers (ms ++ [m]) = insert m.1 m.2 (ofMembers ms) := by
  rw [ofMembers, List.foldl_append]
  rfl

theorem increasing_ofMembers (ms : List (String × Json)) : Increasing (keys (ofMembers ms)) := by
  induction ms using List.reverseRecOn with
  | nil => trivial
  | append_singleton ms m ih =>
    rw [ofMembers_concat]
    exact increasing_insert ih

/-- Under each name stands the last of the members with this name. -/
theorem lookup_ofMembers (k : String) (ms : List (String × Json)) :
    (ofMembers ms).lookup k = ms.reverse.lookup k := by
  induction ms using List.reverseRecOn with
  | nil => rfl
  | append_singleton ms m ih =>
    rw [ofMembers_concat, lookup_insert, List.reverse_append, List.reverse_singleton,
      List.singleton_append, List.lookup_cons, List.lookup_cons, ih]

theorem lookup_ofMembers_last {before after : List (String × Json)} {w : Json}
    (h : k ∉ keys after) : (ofMembers (before ++ (k, w) :: after)).lookup k = some w := by
  have hnone : after.reverse.lookup k = none := by
    rw [lookup_eq_none_iff]
    simpa [keys] using h
  rw [lookup_ofMembers, List.reverse_append, List.reverse_cons, List.append_assoc,
    List.lookup_append, hnone]
  simp

theorem mem_keys_ofMembers : k ∈ keys (ofMembers ms) ↔ k ∈ keys ms := by
  rw [mem_keys_iff, lookup_ofMembers, ← mem_keys_iff]
  simp [keys]

theorem mem_of_mem_ofMembers {m : String × Json} (h : m ∈ ofMembers ms) : m ∈ ms := by
  induction ms using List.reverseRecOn with
  | nil => cases h
  | append_singleton ms m' ih =>
    rw [ofMembers_concat] at h
    rcases mem_of_mem_insert h with rfl | hm
    · simp
    · exact List.mem_append_left _ (ih hm)

/-- Members with different names may come in any order. -/
theorem ofMembers_perm (hperm : ms.Perm ms') (h : (keys ms).Nodup) :
    ofMembers ms = ofMembers ms' := by
  have hreverse : ms.reverse.Perm ms'.reverse :=
    ms.reverse_perm.trans (hperm.trans ms'.reverse_perm.symm)
  have hnodup : (keys ms.reverse).Nodup := by simpa [keys] using h
  have hnodup' : (keys ms'.reverse).Nodup := (hreverse.map _).nodup_iff.mp hnodup
  refine eq_of_lookup (increasing_ofMembers ms) (increasing_ofMembers ms') fun k => ?_
  rw [lookup_ofMembers, lookup_ofMembers]
  ext v
  rw [lookup_eq_some_iff hnodup, lookup_eq_some_iff hnodup', hreverse.mem_iff]

theorem sortedMembers_iff : ∀ {ms : List (String × Json)}, SortedMembers ms ↔ ∀ m ∈ ms, m.2.Sorted
  | [] => by simp [SortedMembers]
  | (k, v) :: ms => by rw [SortedMembers, sortedMembers_iff, List.forall_mem_cons]

/-- Members of which each value is in order are put together to an object that is. -/
theorem sorted_ofMembers (h : SortedMembers ms) : (Json.object (ofMembers ms)).Sorted :=
  ⟨increasing_ofMembers ms,
    sortedMembers_iff.mpr fun m hm => sortedMembers_iff.mp h m (mem_of_mem_ofMembers hm)⟩

end OfMembers

end Attest.Json
