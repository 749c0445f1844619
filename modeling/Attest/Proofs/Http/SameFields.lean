import Mathlib.Data.List.Perm.Subperm
import Attest.Proofs.Http.Fields

/-!
Fields that make equal headers.

Headers are compared one way: as many values in all, and for each name of the one those of the
other. That is enough, for what has the values of all the names of the other, and no more values
than it, has no other names (`Headers.perm_of_fields_length`). So headers are equal exactly if every
name has the same values in both (`Headers.equal_iff`), and these are the headers of fields that
differ in the letter case of names and in the order of fields with different names
(`Rearranged.sameValues`, `Rearranged.of_sameValues`).
-/

namespace Attest

/-! ### Equality of headers -/

namespace Headers

variable {a b h : Headers} {k : String} {vs : List (List UInt8)}

theorem Formed.lookup_iff (hf : h.Formed) : h.entries.lookup k = some vs ↔ (k, vs) ∈ h.entries :=
  lookup_eq_some_iff hf.nodup

/-- What stands in headers are the names that have values, with their values. -/
theorem Formed.mem_entries_iff (hf : h.Formed) :
    (k, vs) ∈ h.entries ↔ vs ≠ [] ∧ h.getAll k = vs ∧ headerName? k = some k := by
  constructor
  · intro hmem
    have hname : headerName? k = some k := hf.named _ hmem
    refine ⟨hf.valued _ hmem, ?_, hname⟩
    simp [getAll, hname, valuesOf, hf.lookup_iff.mpr hmem]
  · rintro ⟨hvs, hvalues, hname⟩
    simp only [getAll, hname, valuesOf] at hvalues
    cases hlookup : h.entries.lookup k with
    | none => exact absurd (by simpa [hlookup] using hvalues.symm) hvs
    | some ws =>
      obtain rfl : ws = vs := by simpa [hlookup] using hvalues
      exact hf.lookup_iff.mp hlookup

/-- Headers have the same entries exactly if every name has the same values in both. -/
theorem perm_iff (ha : a.Formed) (hb : b.Formed) :
    a.entries.Perm b.entries ↔ ∀ name, a.getAll name = b.getAll name := by
  constructor
  · intro hperm name
    have hlookup (k : String) : a.entries.lookup k = b.entries.lookup k := by
      ext vs
      rw [ha.lookup_iff, hb.lookup_iff, hperm.mem_iff]
    simp only [getAll, valuesOf, hlookup]
  · intro hvalues
    refine (List.perm_ext_iff_of_nodup (ha.nodup.of_map _) (hb.nodup.of_map _)).mpr ?_
    rintro ⟨k, vs⟩
    rw [ha.mem_entries_iff, hb.mem_entries_iff, hvalues]

/-- Headers with all the entries of others, and as many values, have no other entries. -/
theorem perm_of_fields_length (ha : a.Formed) (hb : b.Formed) (hsub : a.entries ⊆ b.entries)
    (hlength : a.fields.length = b.fields.length) : a.entries.Perm b.entries := by
  obtain ⟨l, hl, hlb⟩ := List.subperm_of_subset (ha.nodup.of_map _) hsub
  obtain ⟨rest, hrest⟩ := hlb.exists_perm_append
  have hperm : b.entries.Perm (a.entries ++ rest) := hrest.trans (hl.append_right rest)
  have hfields : b.fields.Perm (a.fields ++ (Headers.mk rest).fields) := by
    refine (hperm.flatMap_right _).trans ?_
    rw [List.flatMap_append]
    rfl
  -- the entries left over have no values, but every entry has some
  have hnone : (Headers.mk rest).fields = [] := by
    have hcount := hfields.length_eq
    rw [List.length_append] at hcount
    exact List.eq_nil_of_length_eq_zero (by omega)
  have hempty : rest = [] := by
    refine List.eq_nil_iff_forall_not_mem.mpr fun e he => ?_
    have hvalued := hb.valued e (hperm.mem_iff.mpr (List.mem_append_right _ he))
    have hmapped := List.flatMap_eq_nil_iff.mp hnone e he
    exact hvalued (List.map_eq_nil_iff.mp hmapped)
  rw [hempty, List.append_nil] at hperm
  exact hperm.symm

/-- Headers are equal exactly if every name has the same values in both. -/
theorem equal_iff (ha : a.Formed) (hb : b.Formed) :
    a.equal b = true ↔ ∀ name, a.getAll name = b.getAll name := by
  rw [← perm_iff ha hb, equal, Bool.and_eq_true, beq_iff_eq, List.all_eq_true]
  constructor
  · rintro ⟨hlength, hvalues⟩
    refine perm_of_fields_length ha hb ?_ hlength
    rintro ⟨k, vs⟩ hmem
    obtain ⟨hvs, hall, hname⟩ := ha.mem_entries_iff.mp hmem
    refine hb.mem_entries_iff.mpr ⟨hvs, ?_, hname⟩
    have hsame : a.valuesOf k = b.valuesOf k := by simpa using hvalues _ hmem
    rw [← hall]
    simp only [getAll, hname, hsame]
  · intro hperm
    have hall := (perm_iff ha hb).mp hperm
    refine ⟨(hperm.flatMap_right _).length_eq, fun e he => ?_⟩
    have hsame := hall e.1
    simp only [getAll, ha.named e he] at hsame
    simpa using hsame

end Headers

/-! ### Fields with the same values -/

/-- Every name has the same values in both lists, in the same order. -/
def SameValues (fs gs : List HeaderField) : Prop :=
  ∀ name, valuesNamed name fs = valuesNamed name gs

/-- The name of the field is a text. -/
def HeaderField.Legible (f : HeaderField) : Prop := ∃ name, f = .of name f.2

namespace HeaderField

variable {f : HeaderField}

/-- A field that can stand in headers has a text for its name. -/
theorem Valid.legible (h : f.Valid) : f.Legible := by
  obtain ⟨k, hk, -⟩ := h
  obtain ⟨s, hs, -⟩ := Option.bind_eq_some_iff.mp hk
  refine ⟨s, Prod.ext ?_ rfl⟩
  cases hdecode : Text.Utf8.decode f.1 with
  | error e => simp [hdecode, Except.toOption] at hs
  | ok s' =>
    obtain rfl : s' = s := by simpa [hdecode, Except.toOption] using hs
    exact Text.Utf8.decode_eq_ok_iff.mp hdecode

/-- Letter case does not keep a field from standing in headers. -/
theorem valid_of_congr {s t : String} (v : List UInt8) (h : Text.sameIgnoringCase s t = true) :
    (of s v).Valid ↔ (of t v).Valid := by
  simp only [Valid, key?_of, headerName?_congr h, of_snd]

end HeaderField

theorem Headers.legible_of_ofFields {fs : List HeaderField} {h : Headers}
    (hmake : ofFields? fs .empty = .ok h) : ∀ f ∈ fs, f.Legible :=
  fun f hf => (exists_ofFields?_iff.mp ⟨h, hmake⟩ f hf).legible

namespace SameValues

variable {f g : HeaderField} {pre fs gs : List HeaderField}

theorem equivalence : Equivalence SameValues :=
  ⟨fun _ _ => rfl, fun h name => (h name).symm, fun h h' name => (h name).trans (h' name)⟩

theorem append_left_iff : SameValues (pre ++ fs) (pre ++ gs) ↔ SameValues fs gs := by
  simp [SameValues]

theorem cons_iff : SameValues (f :: fs) (f :: gs) ↔ SameValues fs gs :=
  @append_left_iff [f] fs gs

/-- A field more or less is seen under its name. -/
theorem not_cons_self (hf : f.Legible) : ¬ SameValues (f :: fs) fs := by
  obtain ⟨s, hs⟩ := hf
  intro h
  have hname := h s
  rw [hs, valuesNamed_cons, if_pos (HeaderField.isNamed_of_self s _)] at hname
  exact List.cons_ne_self _ _ hname

/-- Another value in place of a field's is seen under its name. -/
theorem not_cons_of_ne (hf : f.Legible) (hne : f.2 ≠ g.2) : ¬ SameValues (f :: fs) (g :: fs) := by
  obtain ⟨s, hs⟩ := hf
  intro h
  have hname := h s
  have hnamed : f.isNamed s = true := by
    rw [hs]
    exact HeaderField.isNamed_of_self s _
  rw [valuesNamed_cons, valuesNamed_cons, if_pos hnamed] at hname
  split at hname
  · exact hne (List.cons.inj hname).1
  · exact List.cons_ne_self _ _ hname

/-- Of two fields of one name that come next, the values are the same. -/
theorem not_cons_cons {name : String} (hf : f.isNamed name = true) (hg : g.isNamed name = true)
    (hne : f.2 ≠ g.2) : ¬ SameValues (f :: fs) (g :: gs) := by
  intro h
  have hname := h name
  rw [valuesNamed_cons, valuesNamed_cons, if_pos hf, if_pos hg] at hname
  exact hne (List.cons.inj hname).1

end SameValues

/-! ### Fields in another order -/

/-- The same fields, but that names may be in another letter case, and fields with different names
in another order. -/
inductive Rearranged : List HeaderField → List HeaderField → Prop
  | refl (fs : List HeaderField) : Rearranged fs fs
  | cons (f : HeaderField) {fs gs : List HeaderField} :
    Rearranged fs gs → Rearranged (f :: fs) (f :: gs)
  | respell {s t : String} (v : List UInt8) (fs : List HeaderField) :
    Text.sameIgnoringCase s t = true → Rearranged (.of s v :: fs) (.of t v :: fs)
  | swap {s t : String} (v w : List UInt8) (fs : List HeaderField) :
    Text.sameIgnoringCase s t = false →
      Rearranged (.of s v :: .of t w :: fs) (.of t w :: .of s v :: fs)
  | trans {fs gs hs : List HeaderField} : Rearranged fs gs → Rearranged gs hs → Rearranged fs hs

namespace Rearranged

variable {fs gs : List HeaderField}

/-- Rearranged fields make headers where the fields do. -/
theorem valid_iff (h : Rearranged fs gs) : (∀ f ∈ fs, f.Valid) ↔ ∀ g ∈ gs, g.Valid := by
  induction h with
  | refl fs => rfl
  | cons f _ ih => rw [List.forall_mem_cons, List.forall_mem_cons, ih]
  | respell v fs h =>
    rw [List.forall_mem_cons, List.forall_mem_cons, HeaderField.valid_of_congr v h]
  | swap v w fs h =>
    simp only [List.forall_mem_cons]
    exact and_left_comm
  | trans _ _ ih ih' => exact ih.trans ih'

theorem sameValues (h : Rearranged fs gs) : SameValues fs gs := by
  intro name
  induction h with
  | refl fs => rfl
  | cons f _ ih => rw [valuesNamed_cons, valuesNamed_cons, ih]
  | @respell s t v fs h =>
    have hsame : Text.sameIgnoringCase name s = Text.sameIgnoringCase name t := by
      unfold Text.sameIgnoringCase
      rw [Text.sameIgnoringCase_iff.mp h]
    simp only [valuesNamed_cons, HeaderField.isNamed_of, hsame, HeaderField.of_snd]
  | @swap s t v w fs h =>
    have hone : ¬ (Text.sameIgnoringCase name s = true ∧ Text.sameIgnoringCase name t = true) := by
      rintro ⟨hs, ht⟩
      have hst : Text.sameIgnoringCase s t = true := by
        rw [Text.sameIgnoringCase_iff] at hs ht ⊢
        exact hs.symm.trans ht
      simp [h] at hst
    simp only [valuesNamed_cons, HeaderField.isNamed_of]
    split <;> split <;> simp_all
  | trans _ _ ih ih' => exact ih.trans ih'

/-- A field goes behind fields with other names. -/
theorem move {s : String} {v : List UInt8} : ∀ {pre : List HeaderField},
    (∀ f ∈ pre, f.Legible) → (∀ f ∈ pre, f.isNamed s = false) → ∀ post,
    Rearranged (.of s v :: (pre ++ post)) (pre ++ .of s v :: post)
  | [], _, _, post => .refl _
  | f :: pre, hlegible, hother, post => by
    obtain ⟨t, ht⟩ := hlegible f List.mem_cons_self
    have hst : Text.sameIgnoringCase s t = false := by
      rw [← HeaderField.isNamed_of s t f.2, ← ht]
      exact hother f List.mem_cons_self
    have hrest : Rearranged (.of s v :: (pre ++ post)) (pre ++ .of s v :: post) :=
      move (fun g hg => hlegible g (List.mem_cons_of_mem f hg))
        (fun g hg => hother g (List.mem_cons_of_mem f hg)) post
    have hfirst : Rearranged (.of s v :: f :: (pre ++ post)) (f :: .of s v :: (pre ++ post)) := by
      rw [ht]
      exact .swap v f.2 _ hst
    exact hfirst.trans (.cons f hrest)

/-- The first value of a name is that of the first field that has it. -/
theorem exists_first {s : String} {v : List UInt8} {vs : List (List UInt8)}
    (hgs : ∀ g ∈ gs, g.Legible) (h : valuesNamed s gs = v :: vs) :
    ∃ pre t post, gs = pre ++ .of t v :: post ∧ Text.sameIgnoringCase s t = true ∧
      ∀ p ∈ pre, p.isNamed t = false := by
  obtain ⟨g, rest, hfilter, rfl, -⟩ := List.map_eq_cons_iff.mp h
  obtain ⟨pre, post, rfl, hpre, hg, -⟩ := List.filter_eq_cons_iff.mp hfilter
  obtain ⟨t, ht⟩ := hgs g (by simp)
  have hst : Text.sameIgnoringCase s t = true := by
    rw [← HeaderField.isNamed_of s t g.2, ← ht]
    exact hg
  refine ⟨pre, t, post, by rw [← ht], hst, fun p hp => ?_⟩
  simpa [HeaderField.isNamed_congr hst] using hpre p hp

/-- Fields of which every name has the same values are the same but for letter case and order. -/
theorem of_sameValues : ∀ {fs gs : List HeaderField}, (∀ f ∈ fs, f.Legible) →
    (∀ g ∈ gs, g.Legible) → SameValues fs gs → Rearranged fs gs
  | [], [], _, _, _ => .refl []
  | [], g :: gs, _, hgs, h => by
    obtain ⟨t, ht⟩ := hgs g List.mem_cons_self
    have hname := h t
    rw [ht, valuesNamed_cons, if_pos (HeaderField.isNamed_of_self t _)] at hname
    cases hname
  | f :: fs, gs, hfs, hgs, h => by
    obtain ⟨s, hs⟩ := hfs f List.mem_cons_self
    have hname := h s
    rw [hs, valuesNamed_cons, if_pos (HeaderField.isNamed_of_self s _)] at hname
    obtain ⟨pre, t, post, rfl, hst, hpre⟩ := exists_first hgs hname.symm
    have hlegible : ∀ p ∈ pre ++ post, p.Legible := fun p hp => hgs p (by
      rcases List.mem_append.mp hp with hp | hp <;> simp [hp])
    -- the field that answers to the first one comes to the front and gets its letter case
    have hback : Rearranged (f :: (pre ++ post)) (pre ++ .of t f.2 :: post) := by
      rw [hs]
      exact (Rearranged.respell f.2 _ hst).trans
        (move (fun p hp => hlegible p (List.mem_append_left _ hp)) hpre post)
    have hfront : SameValues (f :: fs) (f :: (pre ++ post)) := fun name =>
      (h name).trans (hback.sameValues name).symm
    have hrest : Rearranged fs (pre ++ post) :=
      of_sameValues (fun p hp => hfs p (List.mem_cons_of_mem f hp)) hlegible
        (SameValues.cons_iff.mp hfront)
    exact (Rearranged.cons f hrest).trans hback

theorem iff_sameValues (hfs : ∀ f ∈ fs, f.Legible) (hgs : ∀ g ∈ gs, g.Legible) :
    Rearranged fs gs ↔ SameValues fs gs := ⟨sameValues, of_sameValues hfs hgs⟩

end Rearranged

end Attest
