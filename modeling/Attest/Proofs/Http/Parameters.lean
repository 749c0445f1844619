import Attest.Proofs.Http.Spacing

/-!
Media types with parameters, written and read back.

Parameters in tokens, with or without quotes around their values, are read as they are written
(`MediaParam.readAll?_written`, `ContentType.parse_written`). The charset is then that of the one
parameter of this name, wherever it stands; only where it comes first of several, in quotes, and is
UTF-8, what comes out is a part of it (`charsetOf_of_sole`). A media type alone and one with a
charset come out as they are written (`ContentType.parse_mediaType`, `ContentType.parse_charset`).
-/

namespace Attest

namespace MediaParam

/-! ### Writing -/

/-- How a parameter is written: its value in quotes, or without them. -/
def written (p : MediaParam) : List Char :=
  p.name ++ '=' :: if p.quoted then '"' :: (p.value ++ ['"']) else p.value

/-- Name and value are tokens. -/
structure InTokens (p : MediaParam) : Prop where
  name : IsToken p.name
  value : IsToken p.value

/-- Parameters after a media type: each stands after a semicolon and a blank. -/
def trail (params : List MediaParam) : List Char := params.flatMap fun p => [';', ' '] ++ p.written

variable {p : MediaParam} {params : List MediaParam} {name value rest : List Char} {c : Char}

theorem mem_written (h : p.InTokens) (hc : c ∈ p.written) :
    isTokenChar c = true ∨ c = '=' ∨ c = '"' := by
  have hvalue (hmem : c ∈ p.value) : isTokenChar c = true := h.value.2 c hmem
  rw [written, List.mem_append, List.mem_cons] at hc
  rcases hc with hc | rfl | hc
  · exact .inl (h.name.2 c hc)
  · exact .inr (.inl rfl)
  · cases hq : p.quoted with
    | true =>
      rw [hq, if_pos rfl, List.mem_cons, List.mem_append, List.mem_singleton] at hc
      rcases hc with rfl | hc | rfl
      · exact .inr (.inr rfl)
      · exact .inl (hvalue hc)
      · exact .inr (.inr rfl)
    | false =>
      rw [hq] at hc
      exact .inl (hvalue hc)

theorem isSolid_written (h : p.InTokens) : IsSolid p.written where
  ne_nil := by simp [written]
  not_mem hmem := by
    rcases mem_written h hmem with htoken | heq | heq
    · exact absurd htoken (by decide)
    · exact absurd heq (by decide)
    · exact absurd heq (by decide)
  isWhiteSpace c hc := by
    rcases mem_written h hc with htoken | rfl | rfl
    · exact isWhiteSpace_of_isTokenChar htoken
    · decide
    · decide

/-! ### Reading -/

/-- A value without quotes ends where the next parameter begins. -/
theorem readPlain?_trail (h : IsToken value) (params : List MediaParam) :
    readPlain? (value ++ trail params) = some (value, (trail params).tail) := by
  cases params with
  | nil =>
    have htrail : trail [] = [] := rfl
    rw [htrail, List.append_nil, readPlain?, List.takeWhile_eq_self_iff.mpr h.2,
      List.dropWhile_eq_nil_iff.mpr h.2]
    rfl
  | cons q params =>
    have htrail : trail (q :: params) = ';' :: ' ' :: (q.written ++ trail params) := rfl
    have hsemicolon : isTokenChar ';' = false := by decide
    obtain ⟨c, value, rfl⟩ := List.exists_cons_of_ne_nil h.1
    rw [htrail, readPlain?, takeWhile_isTokenChar h.2 hsemicolon,
      dropWhile_isTokenChar h.2 hsemicolon]
    rfl

theorem isQuotable_of_isTokenChar (h : isTokenChar c = true) : isQuotable c = true := by
  obtain ⟨hlow, hhigh⟩ := toNat_of_isTokenChar h
  simp only [isQuotable, Bool.and_eq_true, decide_eq_true_eq, ne_eq]
  omega

/-- A value in quotes ends where they are closed, if the next parameter follows or nothing does. -/
theorem readQuoted?_trail (h : IsToken value) (params : List MediaParam) :
    readQuoted? (value ++ '"' :: trail params) = some (value, (trail params).tail) := by
  obtain ⟨c, value, rfl⟩ := List.exists_cons_of_ne_nil h.1
  have hc : isQuotable c = true := isQuotable_of_isTokenChar (h.2 c (by simp))
  let inside (d : Char) : Bool := d ≠ '"' && isQuotable d
  have hinside : ∀ d ∈ value, inside d = true := by
    intro d hd
    have htoken := h.2 d (List.mem_cons_of_mem c hd)
    have hquote : d ≠ '"' := fun heq => absurd (heq ▸ htoken) (by decide)
    simp [inside, hquote, isQuotable_of_isTokenChar htoken]
  have htake : (value ++ '"' :: trail params).takeWhile inside = value := by
    rw [List.takeWhile_append_of_pos hinside, List.takeWhile_cons_of_neg (by simp [inside]),
      List.append_nil]
  have hdrop : (value ++ '"' :: trail params).dropWhile inside = '"' :: trail params := by
    rw [List.dropWhile_append_of_pos hinside, List.dropWhile_cons_of_neg (by simp [inside])]
  rw [List.cons_append, readQuoted?, if_pos hc]
  dsimp only
  rw [hdrop, htake]
  cases params <;> rfl

/-- Up to its value a parameter is read in one way. -/
theorem read?_name (h : IsToken name) (rest : List Char) :
    read? (' ' :: (name ++ '=' :: rest)) =
      match rest with
      | '"' :: rest => (readQuoted? rest).map fun (value, rest) => (⟨name, value, true⟩, rest)
      | rest => (readPlain? rest).map fun (value, rest) => (⟨name, value, false⟩, rest) := by
  have hequals : isTokenChar '=' = false := by decide
  obtain ⟨c, name, rfl⟩ := List.exists_cons_of_ne_nil h.1
  have hblank : c ≠ ' ' :=
    ne_of_mem_of_not_mem List.mem_cons_self (not_mem_of_isTokenChar h.2 (by decide))
  have hblanks : (' ' :: (c :: name ++ '=' :: rest)).dropWhile (· = ' ') =
      c :: name ++ '=' :: rest := by
    rw [List.dropWhile_cons_of_pos (by decide)]
    exact List.dropWhile_cons_of_neg (by simpa using hblank)
  rw [read?, hblanks, takeWhile_isTokenChar h.2 hequals, dropWhile_isTokenChar h.2 hequals]
  split
  next hname hrest =>
    cases hname
    cases hrest
    rfl
  next hplain hname hrest =>
    cases hname
    cases hrest
    split
    next => exact absurd rfl (hplain _)
    next => rfl
  next hno => exact absurd rfl (hno c name rest rfl)

/-- A parameter is read as it is written, up to the blank before the next one. -/
theorem read?_written (h : p.InTokens) (params : List MediaParam) :
    read? (' ' :: (p.written ++ trail params)) = some (p, (trail params).tail) := by
  have hname : IsToken p.name := h.name
  have hvalue : IsToken p.value := h.value
  cases hq : p.quoted with
  | true =>
    have hwritten : p.written ++ trail params =
        p.name ++ '=' :: '"' :: (p.value ++ '"' :: trail params) := by
      simp [written, hq]
    rw [hwritten, read?_name hname]
    change (readQuoted? (p.value ++ '"' :: trail params)).map
      (fun (value, rest) => ((⟨p.name, value, true⟩ : MediaParam), rest)) = _
    rw [readQuoted?_trail hvalue, ← hq]
    rfl
  | false =>
    have hwritten : p.written ++ trail params = p.name ++ '=' :: (p.value ++ trail params) := by
      simp [written, hq]
    rw [hwritten, read?_name hname]
    split
    next rest heq =>
      -- a token does not begin with a quote
      obtain ⟨d, value, hd⟩ := List.exists_cons_of_ne_nil hvalue.1
      rw [hd] at heq
      cases heq
      exact absurd (hvalue.2 '"' (by simp [hd])) (by decide)
    next =>
      rw [readPlain?_trail hvalue, ← hq]
      rfl

theorem readAll?_written : ∀ (params : List MediaParam) (p : MediaParam) {fuel : Nat},
    (∀ q ∈ p :: params, q.InTokens) → params.length < fuel →
    readAll? fuel (' ' :: (p.written ++ trail params)) = some (p :: params)
  | [], p, fuel + 1, h, _ => by
    have hend : readAll? fuel [] = some [] := by rw [readAll?]
    have hread := read?_written (h p (by simp)) []
    rw [readAll?, hread]
    · exact congrArg (Option.map (p :: ·)) hend
    · simp
  | q :: params, p, fuel + 1, h, hfuel => by
    have hrest := readAll?_written params q (fun r hr => h r (List.mem_cons_of_mem p hr))
      (Nat.lt_of_succ_lt_succ hfuel)
    have hread := read?_written (h p (by simp)) (q :: params)
    rw [readAll?, hread]
    · exact congrArg (Option.map (p :: ·)) hrest
    · simp

theorem length_le_trail (params : List MediaParam) : params.length ≤ (trail params).length := by
  induction params with
  | nil => simp
  | cons q params ih =>
    have htrail : trail (q :: params) = ';' :: ' ' :: (q.written ++ trail params) := rfl
    simp only [htrail, List.length_cons, List.length_append]
    omega

end MediaParam

open MediaParam (trail)

/-! ### Charsets among parameters -/

/-- Of several parameters the first is the charset UTF-8, in quotes. -/
def LeadsQuoted : List MediaParam → Prop
  | p :: _ :: _ => p.isCharset = true ∧ p.quoted = true ∧ Text.asciiLower p.value = utf8Name
  | _ => False

instance : DecidablePred LeadsQuoted
  | [] | [_] => inferInstanceAs (Decidable False)
  | p :: _ :: _ => inferInstanceAs (Decidable (p.isCharset = true ∧ p.quoted = true ∧
      Text.asciiLower p.value = utf8Name))

/-- What comes out for them: the opening quote, and what there is room for after it. -/
def clippedName : List Char := ('"' :: utf8Name).take 5

/-- What comes out where `p` is the one charset: its value in lower case, or what is left of it. -/
def soleCharset (params : List MediaParam) (p : MediaParam) : List Char :=
  if LeadsQuoted params then clippedName else Text.asciiLower p.value

/-- The value of the one parameter that is a charset, wherever it stands. -/
theorem charsetOf_of_sole {params : List MediaParam} {p : MediaParam}
    (h : params.filter (·.isCharset) = [p]) : charsetOf params = some (soleCharset params p) := by
  have hfind : params.find? (·.isCharset) = some p := by
    rw [← List.head?_filter, h, List.head?_cons]
  unfold charsetOf soleCharset
  split
  next q r rest =>
    split
    next hutf8 =>
      rw [Bool.and_eq_true, beq_iff_eq] at hutf8
      obtain ⟨hname, hvalue⟩ := hutf8
      -- the first parameter is the one charset
      obtain rfl : q = p := by
        rw [List.find?_cons_of_pos hname] at hfind
        exact Option.some.inj hfind
      cases hq : q.quoted with
      | true =>
        have hleads : LeadsQuoted (q :: r :: rest) := ⟨hname, hq, hvalue⟩
        rw [if_pos rfl, if_pos hleads, clippedName]
      | false =>
        have hplain : ¬ LeadsQuoted (q :: r :: rest) := fun ⟨_, hquoted, _⟩ => by
          rw [hq] at hquoted
          cases hquoted
        rw [if_neg (by decide), if_neg hplain, hvalue]
    next hother =>
      have hplain : ¬ LeadsQuoted (q :: r :: rest) := fun ⟨hname, _, hvalue⟩ =>
        hother (by rw [hname, hvalue]; rfl)
      rw [if_neg hplain, hfind, Option.map_some]
  next hfew =>
    have hplain : ¬ LeadsQuoted params := fun h => by
      match params with
      | [] | [_] => exact h
      | q :: r :: rest => exact hfew q r rest rfl
    rw [if_neg hplain, hfind, Option.map_some]

/-! ### Media types with parameters -/

section Written

variable {s : List Char} {params : List MediaParam}

/-- A type and a slash, and a subtype unless it is left out. -/
theorem isSolid_bare {type subtype : List Char} (htype : IsToken type)
    (hsubtype : ∀ c ∈ subtype, isTokenChar c = true) : IsSolid (type ++ '/' :: subtype) where
  ne_nil := by simp
  not_mem := by
    have hsemicolon : isTokenChar ';' = false := by decide
    simp [not_mem_of_isTokenChar htype.2 hsemicolon, not_mem_of_isTokenChar hsubtype hsemicolon]
  isWhiteSpace c hc := by
    rcases List.mem_append.mp hc with hc | hc
    · exact isWhiteSpace_of_isTokenChar (htype.2 c hc)
    · rcases List.mem_cons.mp hc with rfl | hc
      · decide
      · exact isWhiteSpace_of_isTokenChar (hsubtype c hc)

theorem IsMediaType.isSolid (h : IsMediaType s) : IsSolid s := by
  obtain ⟨type, subtype, htype, hsubtype, rfl⟩ := h
  exact isSolid_bare htype hsubtype.2

theorem readMedia?_trail (h : IsMediaType s) (hparams : ∀ p ∈ params, p.InTokens) :
    readMedia? (s ++ trail params) = some params := by
  obtain ⟨type, subtype, htype, hsubtype, rfl⟩ := h
  rw [readMedia?_eq_some_iff]
  cases params with
  | nil =>
    have htrail : trail [] = [] := rfl
    rw [htrail, List.append_nil]
    exact .bare htype hsubtype.2
  | cons p params =>
    have htrail : trail (p :: params) = ';' :: ' ' :: (p.written ++ trail params) := rfl
    have hfuel : params.length < (' ' :: (p.written ++ trail params)).length := by
      have hlength := MediaParam.length_le_trail params
      simp only [List.length_cons, List.length_append]
      omega
    rw [htrail, List.append_assoc, List.cons_append]
    exact .parameters htype hsubtype (MediaParam.readAll?_written params p hparams hfuel)

namespace ContentType

/-- A media type and its parameters, written out. -/
def written (mediaType : List Char) (params : List MediaParam) : List Char :=
  [';', ' '].intercalate (mediaType :: params.map MediaParam.written)

theorem written_eq (s : List Char) (params : List MediaParam) :
    written s params = s ++ trail params := by
  rw [written, Text.intercalate_cons, List.flatMap_map, trail]

/-- A media type with parameters in tokens is read as it is written. -/
theorem parse_written (h : IsMediaType s) (hparams : ∀ p ∈ params, p.InTokens) :
    parse (String.ofList (written s params)) =
      ⟨String.ofList s, ((charsetOf params).filter (· ≠ [])).map String.ofList⟩ := by
  have hsolid : ∀ t ∈ s :: params.map MediaParam.written, IsSolid t :=
    List.forall_mem_cons.mpr ⟨h.isSolid, List.forall_mem_map.mpr fun p hp =>
      MediaParam.isSolid_written (hparams p hp)⟩
  have hread : readMedia? (written s params) = some params := by
    rw [written_eq, readMedia?_trail h hparams]
  exact parse_solid hsolid hread

/-- With one charset among the parameters, that is the charset. -/
theorem parse_of_sole {p : MediaParam} (h : IsMediaType s) (hparams : ∀ q ∈ params, q.InTokens)
    (hsole : params.filter (·.isCharset) = [p]) :
    parse (String.ofList (written s params)) =
      ⟨String.ofList s, some (String.ofList (soleCharset params p))⟩ := by
  have hp : p ∈ params := (List.mem_filter.mp (hsole ▸ List.mem_singleton_self p)).1
  have hvalue : Text.asciiLower p.value ≠ [] := by
    simpa [Text.asciiLower] using (hparams p hp).value.1
  have hne : soleCharset params p ≠ [] := by
    unfold soleCharset
    split
    · decide
    · exact hvalue
  rw [parse_written h hparams, charsetOf_of_sole hsole, Option.filter_some,
    if_pos (by simpa using hne), Option.map_some]

/-- A type and a slash alone, with a subtype or without, have no charset. -/
theorem parse_bare {type subtype : List Char} (htype : IsToken type)
    (hsubtype : ∀ c ∈ subtype, isTokenChar c = true) :
    parse (String.ofList (type ++ '/' :: subtype)) =
      ⟨String.ofList (type ++ '/' :: subtype), none⟩ := by
  have hsolid : ∀ t ∈ [type ++ '/' :: subtype], IsSolid t := by
    simpa using isSolid_bare htype hsubtype
  have hread := readMedia?_eq_some_iff.mpr (.bare htype hsubtype)
  have hparse := parse_solid hsolid (by rwa [List.intercalate_singleton])
  rwa [List.intercalate_singleton] at hparse

/-- A media type alone has no charset. -/
theorem parse_mediaType {mediaType : String} (h : IsMediaType mediaType.toList) :
    parse mediaType = ⟨mediaType, none⟩ := by
  obtain ⟨type, subtype, htype, hsubtype, hs⟩ := h
  have hparse := parse_bare htype hsubtype.2
  rwa [← hs, String.ofList_toList] at hparse

/-- A media type with a charset comes out with the charset in lower case. -/
theorem parse_charset {mediaType charset : String} (h : IsMediaType mediaType.toList)
    (hcharset : IsToken charset.toList) :
    parse (mediaType ++ "; charset=" ++ charset) =
      ⟨mediaType, some (String.ofList (Text.asciiLower charset.toList))⟩ := by
  let param : MediaParam := ⟨"charset".toList, charset.toList, false⟩
  have hname : IsToken "charset".toList := by decide
  have hparam : param.InTokens := ⟨hname, hcharset⟩
  have hvalue : mediaType ++ "; charset=" ++ charset =
      String.ofList (written mediaType.toList [param]) := by
    rw [← String.toList_inj, String.toList_ofList, written_eq]
    simp [trail, MediaParam.written, param]
  have hsole : [param].filter (·.isCharset) = [param] := rfl
  have hfound : soleCharset [param] param = Text.asciiLower charset.toList := rfl
  rw [hvalue, parse_of_sole h (by simpa using hparam) hsole, hfound, String.ofList_toList]

end ContentType

end Written

end Attest
