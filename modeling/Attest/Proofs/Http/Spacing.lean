import Attest.Proofs.Http.MediaType

/-!
White space and blank pieces between semicolons.

A value is known by its segments and by what leads it (`ContentType.parse_congr`). Of pieces put
together with semicolons these are the trimmed pieces (`ContentType.segments_intercalate`), so white
space around the pieces and blank pieces among them do not show (`ContentType.parse_loosened`),
whatever the pieces are. Pieces that nothing is cut from are read as they stand
(`ContentType.parse_solid`).
-/

namespace Attest

/-- White space alone. -/
def IsBlank (s : List Char) : Prop := ∀ c ∈ s, Unicode.isWhiteSpace c = true

instance (s : List Char) : Decidable (IsBlank s) :=
  decidable_of_iff (s.all Unicode.isWhiteSpace = true) (by rw [List.all_eq_true, IsBlank])

/-- Pieces set loose: white space around each of them, and blank pieces anywhere among them. -/
inductive Loosened : List (List Char) → List (List Char) → Prop where
  | done : Loosened [] []
  | blank {b : List Char} {pieces loose : List (List Char)} (hb : IsBlank b)
      (h : Loosened pieces loose) : Loosened pieces (b :: loose)
  | padded {l s r : List Char} {pieces loose : List (List Char)} (hl : IsBlank l) (hr : IsBlank r)
      (h : Loosened pieces loose) : Loosened (s :: pieces) ((l ++ s ++ r) :: loose)

variable {s l r : List Char} {pieces loose : List (List Char)}

theorem IsBlank.not_mem (h : IsBlank s) : ';' ∉ s := fun hmem => by
  have hwhite : Unicode.isWhiteSpace ';' = true := h ';' hmem
  exact absurd hwhite (by decide)

/-- White space brings no semicolon. -/
theorem not_mem_pad (hl : IsBlank l) (hr : IsBlank r) (hs : ';' ∉ s) : ';' ∉ l ++ s ++ r := by
  simp [hl.not_mem, hr.not_mem, hs]

theorem Loosened.not_mem (h : Loosened pieces loose) (hpieces : ∀ s ∈ pieces, ';' ∉ s) :
    ∀ s ∈ loose, ';' ∉ s := by
  induction h with
  | done => exact hpieces
  | blank hb _ ih => exact List.forall_mem_cons.mpr ⟨hb.not_mem, ih hpieces⟩
  | padded hl hr _ ih =>
    obtain ⟨hs, hrest⟩ := List.forall_mem_cons.mp hpieces
    exact List.forall_mem_cons.mpr ⟨not_mem_pad hl hr hs, ih hrest⟩

namespace ContentType

/-- A value is known by its segments and by what leads it. -/
theorem parse_congr {value value' : List Char} (hsegments : segments value = segments value')
    (hleading : leading value = leading value') :
    parse (String.ofList value) = parse (String.ofList value') := by
  rw [parse, parse, String.toList_ofList, String.toList_ofList, hsegments, hleading]

/-! ### Pieces put together -/

/-- The pieces without the white space around them, but for blank ones. -/
def trimmed (pieces : List (List Char)) : List (List Char) :=
  (pieces.map (Text.trimBy Unicode.isWhiteSpace)).filter (· ≠ [])

theorem segments_intercalate (hne : pieces ≠ []) (h : ∀ s ∈ pieces, ';' ∉ s) :
    segments ([';'].intercalate pieces) = trimmed pieces := by
  rw [segments, Text.splitAt_intercalate hne h, trimmed]

theorem leading_intercalate (h : ∀ t ∈ s :: pieces, ';' ∉ t) :
    leading ([';'].intercalate (s :: pieces)) = Text.trimBy Unicode.isWhiteSpace s := by
  rw [leading, Text.splitAt_intercalate (by simp) h]

theorem trimmed_cons (s : List Char) (pieces : List (List Char)) :
    trimmed (s :: pieces) =
      [Text.trimBy Unicode.isWhiteSpace s].filter (· ≠ []) ++ trimmed pieces := by
  rw [trimmed, List.map_cons, ← List.singleton_append, List.filter_append, trimmed]

theorem trimmed_blank (h : IsBlank s) (pieces : List (List Char)) :
    trimmed (s :: pieces) = trimmed pieces := by
  rw [trimmed_cons, Text.trimBy_eq_nil h]
  rfl

/-- White space around a piece goes. -/
theorem trimmed_pad (hl : IsBlank l) (hr : IsBlank r) (s : List Char)
    (pieces : List (List Char)) :
    trimmed ((l ++ s ++ r) :: pieces) =
      [Text.trimBy Unicode.isWhiteSpace s].filter (· ≠ []) ++ trimmed pieces := by
  rw [trimmed_cons, Text.trimBy_pad hl hr]

/-- Trimmed pieces stay as they are. -/
theorem trimmed_map_trimBy (pieces : List (List Char)) :
    trimmed (pieces.map (Text.trimBy Unicode.isWhiteSpace)) = trimmed pieces := by
  have htwice : Text.trimBy Unicode.isWhiteSpace ∘ Text.trimBy Unicode.isWhiteSpace =
      Text.trimBy Unicode.isWhiteSpace := funext fun _ => Text.trimBy_trimBy
  rw [trimmed, List.map_map, htwice, trimmed]

theorem trimmed_loosened (h : Loosened pieces loose) : trimmed loose = trimmed pieces := by
  induction h with
  | done => rfl
  | blank hb _ ih => rw [trimmed_blank hb, ih]
  | padded hl hr _ ih => rw [trimmed_pad hl hr, trimmed_cons, ih]

/-- CORRECT. Pieces without semicolons, put together with semicolons, are read alike whatever white
space is put around each of them, and whatever blank pieces are put in after the first; they are
read like the pieces trimmed. This takes no account of what the pieces are: they need not make a
media type, and a semicolon may stand between two quotes. -/
theorem parse_loosened (hl : IsBlank l) (hr : IsBlank r)
    (hpieces : ∀ t ∈ s :: pieces, ';' ∉ t) (h : Loosened pieces loose) :
    parse (String.ofList ([';'].intercalate ((l ++ s ++ r) :: loose))) =
      parse (String.ofList
        ([';'].intercalate ((s :: pieces).map (Text.trimBy Unicode.isWhiteSpace)))) := by
  obtain ⟨hs, hrest⟩ := List.forall_mem_cons.mp hpieces
  have hloose : ∀ t ∈ (l ++ s ++ r) :: loose, ';' ∉ t :=
    List.forall_mem_cons.mpr ⟨not_mem_pad hl hr hs, h.not_mem hrest⟩
  have htrimmed : ∀ t ∈ (s :: pieces).map (Text.trimBy Unicode.isWhiteSpace), ';' ∉ t :=
    List.forall_mem_map.mpr fun t ht hmem => hpieces t ht (Text.mem_of_mem_trimBy hmem)
  refine parse_congr ?_ ?_
  · rw [segments_intercalate (by simp) hloose, segments_intercalate (by simp) htrimmed,
      trimmed_map_trimBy, trimmed_pad hl hr, trimmed_cons, trimmed_loosened h]
  · rw [leading_intercalate hloose, Text.trimBy_pad hl hr]
    exact ((leading_intercalate htrimmed).trans Text.trimBy_trimBy).symm

/-- White space of several kinds, a blank piece and a semicolon at the end. -/
theorem parse_loosened_by_wide_blanks :
    let first := "text/plain".toList
    let rest := ["charset=utf-8".toList]
    let left := ['\u00a0']
    let right := ['\u3000', '\t']
    let loose := [[' '], ['\n'] ++ "charset=utf-8".toList ++ [], []]
    IsBlank left ∧ IsBlank right ∧ (∀ t ∈ first :: rest, ';' ∉ t) ∧ Loosened rest loose ∧
      parse (String.ofList ([';'].intercalate ((left ++ first ++ right) :: loose))) =
        parse (String.ofList ([';'].intercalate
          ((first :: rest).map (Text.trimBy Unicode.isWhiteSpace)))) ∧
      parse (String.ofList ([';'].intercalate (first :: rest))) =
        ⟨"text/plain", some "utf-8"⟩ := by
  intro first rest left right loose
  have hl : IsBlank left := by decide
  have hr : IsBlank right := by decide
  have hpieces : ∀ t ∈ first :: rest, ';' ∉ t := by decide
  have hloose : Loosened rest loose :=
    .blank (by decide) (.padded (by decide) (by decide) (.blank (by decide) .done))
  exact ⟨hl, hr, hpieces, hloose, parse_loosened hl hr hpieces hloose, by decide +kernel⟩

end ContentType

/-! ### Solid pieces -/

/-- Some text that nothing is cut from: it has no semicolon and no white space. -/
structure IsSolid (s : List Char) : Prop where
  ne_nil : s ≠ []
  not_mem : ';' ∉ s
  isWhiteSpace : ∀ c ∈ s, Unicode.isWhiteSpace c = false

/-- A blank after a semicolon is white space before the piece that follows. -/
theorem loosened_blank : ∀ pieces : List (List Char),
    Loosened pieces (pieces.map ([' '] ++ · ++ []))
  | [] => .done
  | _ :: pieces => .padded (by decide) (by decide) (loosened_blank pieces)

theorem intercalate_blank (s : List Char) (pieces : List (List Char)) :
    [';', ' '].intercalate (s :: pieces) =
      [';'].intercalate (s :: pieces.map ([' '] ++ · ++ [])) := by
  rw [Text.intercalate_cons, Text.intercalate_cons, List.flatMap_map]
  simp

namespace ContentType

theorem trimmed_solid (h : ∀ t ∈ pieces, IsSolid t) : trimmed pieces = pieces := by
  have hmap : pieces.map (Text.trimBy Unicode.isWhiteSpace) = pieces :=
    (List.map_congr_left fun t ht => Text.trimBy_eq_self (h t ht).isWhiteSpace).trans
      (List.map_id pieces)
  rw [trimmed, hmap, List.filter_eq_self]
  intro t ht
  simpa using (h t ht).ne_nil

section Solid

variable (h : ∀ t ∈ s :: pieces, IsSolid t)
include h

theorem not_mem_solid : ∀ t ∈ s :: pieces.map ([' '] ++ · ++ []), ';' ∉ t := by
  obtain ⟨hs, hpieces⟩ := List.forall_mem_cons.mp h
  exact List.forall_mem_cons.mpr ⟨hs.not_mem,
    (loosened_blank pieces).not_mem fun t ht => (hpieces t ht).not_mem⟩

/-- The segments of solid pieces, with semicolons and blanks between them, are these pieces. -/
theorem segments_solid : segments ([';', ' '].intercalate (s :: pieces)) = s :: pieces := by
  rw [intercalate_blank, segments_intercalate (by simp) (not_mem_solid h), trimmed_cons,
    trimmed_loosened (loosened_blank pieces), ← trimmed_cons, trimmed_solid h]

theorem leading_solid : leading ([';', ' '].intercalate (s :: pieces)) = s := by
  rw [intercalate_blank, leading_intercalate (not_mem_solid h)]
  exact Text.trimBy_eq_self (h s (by simp)).isWhiteSpace

/-- Solid pieces with semicolons and blanks between them are read as they stand. -/
theorem parse_solid {params : List MediaParam}
    (hread : readMedia? ([';', ' '].intercalate (s :: pieces)) = some params) :
    parse (String.ofList ([';', ' '].intercalate (s :: pieces))) =
      ⟨String.ofList s, ((charsetOf params).filter (· ≠ [])).map String.ofList⟩ := by
  have hrejoined :
      readMedia? (rejoined (String.ofList ([';', ' '].intercalate (s :: pieces))).toList) =
        some params := by
    rw [String.toList_ofList, rejoined, segments_solid h, hread]
  rw [parse_of_read hrejoined, String.toList_ofList, leading_solid h]

end Solid

end ContentType

end Attest
