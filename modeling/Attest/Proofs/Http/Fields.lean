import Attest.Http.Headers
import Attest.Proofs.Text.Lookup
import Attest.Proofs.Text.Split
import Attest.Proofs.Text.Utf8

/-!
Header fields, and the headers that they make.

Fields come one after the other, with names in any letter case. In the headers that they make, the
values of a name are those of the fields that have it, in the order in which they came
(`Headers.getAll_ofFields`). Each name stands there once, with some value (`Headers.Formed`).
-/

namespace Attest

/-! ### Names -/

theorem isHeaderNameChar_toLower (c : Char) :
    isHeaderNameChar c.toLower = isHeaderNameChar c := by
  have hascii : ∀ n < 0x80, isHeaderNameChar (Char.ofNat n).toLower =
      isHeaderNameChar (Char.ofNat n) := by decide +kernel
  by_cases h : c.toNat < 0x80
  · have hc := hascii c.toNat h
    rwa [Char.ofNat_toNat] at hc
  · -- there are no capital letters there
    have hlow : ¬ (c.val ≥ 'A'.val ∧ c.val ≤ 'Z'.val) := by
      rintro ⟨-, hz⟩
      have hle : c.toNat ≤ 90 := UInt32.le_iff_toNat_le.mp hz
      omega
    have hsame : c.toLower = c := dif_neg hlow
    rw [hsame]

/-- Letter case does not make a name, nor keep a text from being one. -/
theorem headerName?_eq (s : String) :
    headerName? s =
      if Text.asciiLower s.toList ≠ [] ∧ (Text.asciiLower s.toList).all isHeaderNameChar ∧
          (Text.asciiLower s.toList).length ≤ longestHeaderName then
        some (String.ofList (Text.asciiLower s.toList))
      else none := by
  have hall : (Text.asciiLower s.toList).all isHeaderNameChar = s.toList.all isHeaderNameChar := by
    rw [Text.asciiLower, List.all_map]
    exact congrArg s.toList.all (funext isHeaderNameChar_toLower)
  rw [hall]
  simp [headerName?, Text.asciiLower]

section Names

variable {s t m n : String}

theorem headerName?_congr (h : Text.sameIgnoringCase s t = true) :
    headerName? s = headerName? t := by
  rw [headerName?_eq, headerName?_eq, Text.sameIgnoringCase_iff.mp h]

theorem toList_of_headerName? (h : headerName? s = some n) :
    n.toList = Text.asciiLower s.toList := by
  rw [headerName?_eq] at h
  split at h
  · cases h
    exact String.toList_ofList
  · cases h

theorem headerName?_headerName? (h : headerName? s = some n) : headerName? n = some n := by
  have hsame : Text.sameIgnoringCase n s = true := by
    rw [Text.sameIgnoringCase_iff, toList_of_headerName? h, Text.asciiLower_asciiLower]
  rw [headerName?_congr hsame, h]

/-- Names are kept as one exactly if they differ in letter case alone. -/
theorem headerName?_eq_iff (h : headerName? s = some n) :
    headerName? t = some n ↔ Text.sameIgnoringCase t s = true := by
  constructor
  · intro ht
    rw [Text.sameIgnoringCase_iff, ← toList_of_headerName? ht, toList_of_headerName? h]
  · intro hsame
    rw [headerName?_congr hsame, h]

end Names

/-! ### Fields -/

/-- A field as it is received: its name and its value. -/
abbrev HeaderField := List UInt8 × List UInt8

namespace HeaderField

/-- The field has the name, in some letter case. -/
def isNamed (name : String) (f : HeaderField) : Bool :=
  (Text.Utf8.decode f.1).toOption.any (Text.sameIgnoringCase name)

/-- The name under which the field is kept. -/
def key? (f : HeaderField) : Option String := (Text.Utf8.decode f.1).toOption.bind headerName?

/-- The field can stand in headers: it has a name and a value for them. -/
def Valid (f : HeaderField) : Prop := ∃ k, f.key? = some k ∧ isHeaderValue f.2 = true

theorem isNamed_iff {f : HeaderField} {k name : String} (h : f.key? = some k) :
    f.isNamed name = true ↔ headerName? name = some k := by
  obtain ⟨s, hs, hk⟩ := Option.bind_eq_some_iff.mp h
  rw [isNamed, hs, Option.any_some, headerName?_eq_iff hk]

/-- A field that has a name has it in any letter case. -/
theorem isNamed_congr {name name' : String} (h : Text.sameIgnoringCase name' name = true) :
    isNamed name' = isNamed name := by
  funext f
  unfold isNamed Text.sameIgnoringCase
  rw [Text.sameIgnoringCase_iff.mp h]

/-- The field with this text for its name. -/
def of (name : String) (value : List UInt8) : HeaderField := (Text.Utf8.encodeString name, value)

@[simp] theorem of_snd (name : String) (v : List UInt8) : (of name v).2 = v := rfl

theorem isNamed_of (name s : String) (v : List UInt8) :
    (of s v).isNamed name = Text.sameIgnoringCase name s := by
  simp [isNamed, of, Text.Utf8.decode_encodeString, Except.toOption]

theorem isNamed_of_self (s : String) (v : List UInt8) : (of s v).isNamed s = true := by
  rw [isNamed_of, Text.sameIgnoringCase_iff]

theorem key?_of (s : String) (v : List UInt8) : (of s v).key? = headerName? s := by
  simp [key?, of, Text.Utf8.decode_encodeString, Except.toOption]

end HeaderField

/-- The values of the fields of this name, in the order of the fields. -/
def valuesNamed (name : String) (fs : List HeaderField) : List (List UInt8) :=
  (fs.filter (·.isNamed name)).map (·.2)

theorem valuesNamed_cons (name : String) (f : HeaderField) (fs : List HeaderField) :
    valuesNamed name (f :: fs) =
      if f.isNamed name = true then f.2 :: valuesNamed name fs else valuesNamed name fs := by
  rw [valuesNamed, List.filter_cons]
  split <;> rfl

@[simp] theorem valuesNamed_append (name : String) (fs gs : List HeaderField) :
    valuesNamed name (fs ++ gs) = valuesNamed name fs ++ valuesNamed name gs := by
  simp [valuesNamed]

/-- The letter case in which a name is asked for does not matter. -/
theorem valuesNamed_congr {name name' : String} (h : Text.sameIgnoringCase name' name = true) :
    valuesNamed name' = valuesNamed name := by
  funext fs
  rw [valuesNamed, valuesNamed, HeaderField.isNamed_congr h]

/-! ### Headers -/

namespace Headers

variable {h h' : Headers} {fs : List HeaderField} {name k : String} {v : List UInt8}

theorem lookup_appendEntry (name k : String) (v : List UInt8) :
    ∀ es : List (String × List (List UInt8)), ((appendEntry k v es).lookup name).getD [] =
      (es.lookup name).getD [] ++ if name = k then [v] else []
  | [] => by
    by_cases hk : name = k
    · simp [appendEntry, hk]
    · simp [appendEntry, lookup_cons_of_ne hk, hk]
  | (n, vs) :: rest => by
    rw [appendEntry]
    by_cases hn : n = k
    · subst hn
      by_cases hname : name = n
      · simp [hname]
      · simp [lookup_cons_of_ne hname, hname]
    · rw [if_neg hn]
      by_cases hname : name = n
      · simp [hname, hn]
      · rw [lookup_cons_of_ne hname, lookup_cons_of_ne hname, lookup_appendEntry name k v rest]

/-- A new value comes after those that its name has. -/
theorem valuesOf_append (h : Headers) (name k : String) (v : List UInt8) :
    (h.append k v).valuesOf name = h.valuesOf name ++ if name = k then [v] else [] :=
  lookup_appendEntry name k v h.entries

theorem getAll_append {f : HeaderField} (h : Headers) (name : String) (hk : f.key? = some k) :
    (h.append k f.2).getAll name =
      h.getAll name ++ if f.isNamed name = true then [f.2] else [] := by
  have hnamed : f.isNamed name = true ↔ headerName? name = some k := HeaderField.isNamed_iff hk
  rw [getAll, getAll]
  cases hname : headerName? name with
  | none => simp [hnamed, hname]
  | some n => simp [hnamed, hname, valuesOf_append]

/-- Fields make headers one by one. -/
theorem ofFields?_cons_iff {f : HeaderField} : ofFields? (f :: fs) h = .ok h' ↔
    ∃ k, f.key? = some k ∧ isHeaderValue f.2 = true ∧ ofFields? fs (h.append k f.2) = .ok h' := by
  obtain ⟨name, value⟩ := f
  rw [ofFields?, HeaderField.key?]
  cases (Text.Utf8.decode name).toOption.bind headerName? with
  | none => simp
  | some k => cases isHeaderValue value <;> simp

/-- Fields make headers exactly if each of them can stand there. -/
theorem exists_ofFields?_iff : ∀ {fs : List HeaderField} {h : Headers},
    (∃ h', ofFields? fs h = .ok h') ↔ ∀ f ∈ fs, f.Valid
  | [], h => by simp [ofFields?]
  | f :: fs, h => by
    rw [List.forall_mem_cons]
    constructor
    · rintro ⟨h', hmake⟩
      obtain ⟨k, hk, hv, hrest⟩ := ofFields?_cons_iff.mp hmake
      exact ⟨⟨k, hk, hv⟩, exists_ofFields?_iff.mp ⟨h', hrest⟩⟩
    · rintro ⟨⟨k, hk, hv⟩, hfs⟩
      obtain ⟨h', hmake⟩ := exists_ofFields?_iff (h := h.append k f.2).mpr hfs
      exact ⟨h', ofFields?_cons_iff.mpr ⟨k, hk, hv, hmake⟩⟩

/-- The values of a name are those of the fields that have it, after those that were there. -/
theorem getAll_of_ofFields? : ∀ {fs : List HeaderField} {h h' : Headers},
    ofFields? fs h = .ok h' → ∀ name, h'.getAll name = h.getAll name ++ valuesNamed name fs
  | [], h, h', hmake, name => by
    cases hmake
    simp [valuesNamed]
  | f :: fs, h, h', hmake, name => by
    obtain ⟨k, hk, -, hrest⟩ := ofFields?_cons_iff.mp hmake
    rw [getAll_of_ofFields? hrest name, getAll_append h name hk, valuesNamed_cons]
    split <;> simp

theorem getAll_ofFields (hmake : ofFields? fs .empty = .ok h) (name : String) :
    h.getAll name = valuesNamed name fs := by
  have hempty : empty.getAll name = [] := by
    unfold getAll
    split <;> rfl
  rw [getAll_of_ofFields? hmake name, hempty, List.nil_append]

/-- What is no header name is the name of no field. -/
theorem valuesNamed_of_no_name (hmake : ofFields? fs .empty = .ok h)
    (hname : headerName? name = none) : valuesNamed name fs = [] := by
  rw [← getAll_ofFields hmake, getAll, hname]

/-! ### The form of headers -/

/-- Each name stands there once, in lower case and with some value. -/
structure Formed (h : Headers) : Prop where
  nodup : (h.entries.map Prod.fst).Nodup
  named : ∀ e ∈ h.entries, headerName? e.1 = some e.1
  valued : ∀ e ∈ h.entries, e.2 ≠ []

theorem mem_appendEntry {e : String × List (List UInt8)} :
    ∀ {es : List (String × List (List UInt8))}, e ∈ appendEntry k v es →
      e ∈ es ∨ e.1 = k ∧ e.2 ≠ []
  | [], he => by
    obtain rfl := List.mem_singleton.mp he
    exact .inr ⟨rfl, by simp⟩
  | (n, vs) :: rest, he => by
    rw [appendEntry] at he
    split at he
    next hn =>
      rcases List.mem_cons.mp he with rfl | he
      · exact .inr ⟨hn, by simp⟩
      · exact .inl (List.mem_cons_of_mem _ he)
    next =>
      rcases List.mem_cons.mp he with rfl | he
      · exact .inl List.mem_cons_self
      · exact (mem_appendEntry he).imp_left (List.mem_cons_of_mem _)

theorem nodup_appendEntry : ∀ {es : List (String × List (List UInt8))},
    (es.map Prod.fst).Nodup → ((appendEntry k v es).map Prod.fst).Nodup
  | [], _ => by simp [appendEntry]
  | (n, vs) :: rest, hnodup => by
    obtain ⟨hnew, hrest⟩ := List.nodup_cons.mp hnodup
    rw [appendEntry]
    split
    next => exact hnodup
    next hn =>
      refine List.nodup_cons.mpr ⟨fun hmem => ?_, nodup_appendEntry hrest⟩
      obtain ⟨e, he, hen⟩ := List.mem_map.mp hmem
      rcases mem_appendEntry he with he | ⟨hek, -⟩
      · exact hnew (List.mem_map.mpr ⟨e, he, hen⟩)
      · exact hn (hen.symm.trans hek)

theorem Formed.append (hf : h.Formed) (hk : headerName? k = some k) (v : List UInt8) :
    (h.append k v).Formed := by
  refine ⟨nodup_appendEntry hf.nodup, fun e he => ?_, fun e he => ?_⟩
  · rcases mem_appendEntry he with he | ⟨hek, -⟩
    · exact hf.named e he
    · rw [hek, hk]
  · rcases mem_appendEntry he with he | ⟨-, hne⟩
    · exact hf.valued e he
    · exact hne

theorem formed_of_ofFields? : ∀ {fs : List HeaderField} {h h' : Headers},
    ofFields? fs h = .ok h' → h.Formed → h'.Formed
  | [], h, h', hmake, hf => by
    cases hmake
    exact hf
  | f :: fs, h, h', hmake, hf => by
    obtain ⟨k, hk, -, hrest⟩ := ofFields?_cons_iff.mp hmake
    obtain ⟨_, _, hname⟩ := Option.bind_eq_some_iff.mp hk
    exact formed_of_ofFields? hrest (hf.append (headerName?_headerName? hname) f.2)

theorem formed_ofFields (hmake : ofFields? fs .empty = .ok h) : h.Formed :=
  formed_of_ofFields? hmake ⟨List.nodup_nil, by simp [empty], by simp [empty]⟩

end Headers

end Attest
