import Attest.Proofs.Json.Leaves
import Attest.Proofs.Response.NoContent
import Attest.Proofs.Subject.Calls
import Attest.Proofs.Text.Split

/-!
Bytes beyond the limit.

A message quotes bytes up to its limit and says how many there are after them (`preview_ends_iff`).
So of two byte strings that are as long as each other and the same up to the limit (`SameUpTo`) it
says the same: what stands beyond the limit is told by no failure (`nothing_told_beyond_limit`).
-/

namespace Attest

/-- As long as each other, and the same up to the limit. -/
structure SameUpTo (limit : Nat) (bytes bytes' : List UInt8) : Prop where
  length : bytes.length = bytes'.length
  first : ∀ i < limit, bytes[i]? = bytes'[i]?

variable {limit : Nat} {bytes bytes' : List UInt8}

theorem SameUpTo.take_eq (h : SameUpTo limit bytes bytes') :
    bytes.take limit = bytes'.take limit := by
  apply List.ext_getElem?
  intro i
  simp only [List.getElem?_take]
  split
  next hi => exact h.first i hi
  next => rfl

theorem SameUpTo.excerpt_eq (h : SameUpTo limit bytes bytes') :
    excerpt limit bytes = excerpt limit bytes' := by
  rw [excerpt, excerpt, h.take_eq, h.length]

theorem SameUpTo.preview_eq (h : SameUpTo limit bytes bytes') :
    preview bytes limit = preview bytes' limit := by
  rw [Attest.preview_eq, Attest.preview_eq, h.excerpt_eq]

theorem SameUpTo.contrast_eq (h : SameUpTo limit bytes bytes') (words : String)
    (expected : List UInt8) :
    BodyCheck.contrast words limit expected bytes =
      BodyCheck.contrast words limit expected bytes' := by
  unfold BodyCheck.contrast
  rw [h.preview_eq]

theorem SameUpTo.bodyParagraph_eq (h : SameUpTo limit bytes bytes') :
    Response.bodyParagraph limit bytes = Response.bodyParagraph limit bytes' := by
  unfold Response.bodyParagraph
  rw [h.excerpt_eq]

/-! ### How many bytes are left out -/

section Ends

variable {k : Nat} {shown : String}

theorem leftOut_pos (hk : 0 < k) : leftOut k = s!"... ({k} more bytes)" := by
  obtain ⟨more, rfl⟩ := Nat.exists_eq_add_one.mpr hk
  rfl

/-- What a message says of bytes that it left out is after a bracket. -/
theorem append_more_toList (shown : String) (k : Nat) :
    (shown ++ s!"... ({k} more bytes)").toList =
      (shown.toList ++ "... ".toList) ++ '(' :: (Nat.toDigits 10 k ++ " more bytes)".toList) := by
  have hword (w : String) : toString w = w := rfl
  simp only [hword, Nat.toString_eq_ofList_toDigits, String.toList_append, String.toList_ofList,
    List.append_assoc]
  rfl

/-- The number of bytes left out can be read off. -/
theorem append_more_inj {shown' : String} {n : Nat}
    (h : shown ++ s!"... ({k} more bytes)" = shown' ++ s!"... ({n} more bytes)") : k = n := by
  have hbracket (m : Nat) : '(' ∉ Nat.toDigits 10 m ++ " more bytes)".toList := by
    rw [List.mem_append, not_or]
    exact ⟨fun hdigit => absurd (Json.isDigit_toDigits hdigit) (by decide), by decide⟩
  have hchars := congrArg String.toList h
  rw [append_more_toList, append_more_toList] at hchars
  have hafter := (Text.append_cons_inj_last (hbracket k) (hbracket n) hchars).2
  have hdigits := congrArg (Json.appendDigits 0) (List.append_cancel_right hafter)
  rwa [Json.appendDigits_toDigits, Json.appendDigits_toDigits] at hdigits

/-- Quotations do not end like what is said of bytes left out. -/
theorem quote_ne_append_more (s shown : String) (k : Nat) :
    Text.quote s ≠ shown ++ s!"... ({k} more bytes)" := by
  intro h
  have hquote : (Text.quote s).toList.getLast? = some '"' := by
    rw [Text.quote, String.toList_ofList, ← List.cons_append, List.getLast?_concat]
  have hbracket : " more bytes)".toList = " more bytes".toList ++ [')'] := rfl
  rw [h, append_more_toList, hbracket, ← List.append_assoc, ← List.cons_append,
    ← List.append_assoc, List.getLast?_concat] at hquote
  cases hquote

/-- A message says that so many bytes are left out exactly where there are so many, and some. -/
theorem preview_ends_iff (bytes : List UInt8) (limit k : Nat) :
    (∃ shown, preview bytes limit = shown ++ s!"... ({k} more bytes)") ↔
      0 < k ∧ bytes.length = limit + k := by
  rw [preview_eq, excerpt]
  constructor
  · rintro ⟨shown, hshown⟩
    rcases Nat.eq_zero_or_pos (bytes.length - limit) with hnone | hsome
    · rw [hnone, leftOut, String.append_empty] at hshown
      exact absurd hshown (quote_ne_append_more _ _ _)
    · rw [leftOut_pos hsome] at hshown
      obtain rfl := append_more_inj hshown
      exact ⟨hsome, by omega⟩
  · rintro ⟨hk, hlength⟩
    have hmore : bytes.length - limit = k := by omega
    rw [hmore, leftOut_pos hk]
    exact ⟨_, rfl⟩

end Ends

/-! ### The same in words -/

/-- The first bytes. None: there are fewer. -/
def slice? (bytes : List UInt8) (count : Nat) : Option (List UInt8) :=
  if count ≤ bytes.length then some (bytes.take count) else none

/-- The difference of two words. None: it would be below zero. -/
def minus? (a b : UInt64) : Option UInt64 := if b ≤ a then some (a - b) else none

/-- A preview that is worked out in words of 64 bits, with slices and differences that there may be
none of. -/
def wordPreview? (bytes : List UInt8) (limit : UInt64) : Option String :=
  let length := UInt64.ofNat bytes.length
  if length ≤ limit then some (Text.quote (Text.Utf8.decodeLossy bytes))
  else do
    let first ← slice? bytes limit.toNat
    let more ← minus? length limit
    return Text.quote (Text.Utf8.decodeLossy first) ++ s!"... ({more} more bytes)"

/-- Every slice and every difference that is needed is there. -/
theorem wordPreview?_eq (limit : UInt64) (h : bytes.length < 2 ^ 64) :
    wordPreview? bytes limit = some (preview bytes limit.toNat) := by
  have hlength : (UInt64.ofNat bytes.length).toNat = bytes.length := UInt64.toNat_ofNat_of_lt' h
  unfold wordPreview? preview
  simp only [UInt64.le_iff_toNat_le, hlength]
  split
  next => rfl
  next hlong =>
    have hin : limit.toNat ≤ bytes.length := by omega
    have hless : limit ≤ UInt64.ofNat bytes.length := by rwa [UInt64.le_iff_toNat_le, hlength]
    have hmore : (UInt64.ofNat bytes.length - limit).toNat = bytes.length - limit.toNat := by
      rw [UInt64.toNat_sub_of_le _ _ hless, hlength]
    have hshown : toString (UInt64.ofNat bytes.length - limit) =
        toString (bytes.length - limit.toNat) := congrArg toString hmore
    simp [slice?, minus?, hin, hless, hshown]

/-! ### Failures -/

/-- Whatever a check finds amiss with the one, it finds the same amiss with the other, or nothing. -/
theorem BodyCheck.exists_verdict (h : SameUpTo limit bytes bytes') (k : BodyCheck) :
    ∃ f holds holds', k.verdict bytes limit = require holds f ∧
      k.verdict bytes' limit = require holds' f := by
  cases k with
  | empty => exact ⟨_, _, _, rfl, by rw [verdict, h.preview_eq]⟩
  | notEmpty => exact ⟨_, _, _, rfl, rfl⟩
  | equal expected => exact ⟨_, _, _, rfl, by rw [verdict, h.contrast_eq]⟩
  | length expected => exact ⟨_, _, _, rfl, by rw [verdict, h.length]⟩
  | contains needle => exact ⟨_, _, _, rfl, by rw [verdict, h.contrast_eq]⟩

/-- Where both fail a check, they do so with one failure. -/
theorem SameUpTo.exists_failsWith (h : SameUpTo limit bytes bytes') {k : BodyCheck} {c c' : Chain}
    (hok : c.failed = false) (hok' : c'.failed = false)
    (hfails : (Subject.body bytes limit).Fails [] (.checkBody k) c)
    (hfails' : (Subject.body bytes' limit).Fails [] (.checkBody k) c') :
    ∃ f, (Subject.body bytes limit).FailsWith [] (.checkBody k) c f ∧
      (Subject.body bytes' limit).FailsWith [] (.checkBody k) c' f := by
  obtain ⟨f, holds, holds', hverdict, hverdict'⟩ := BodyCheck.exists_verdict h k
  have hjudge : (Subject.body bytes limit).judge (.checkBody k) =
      some (.check (require holds f)) := by rw [← hverdict]; rfl
  have hjudge' : (Subject.body bytes' limit).judge (.checkBody k) =
      some (.check (require holds' f)) := by rw [← hverdict']; rfl
  rw [Subject.fails_check_iff hok rfl hjudge] at hfails
  rw [Subject.fails_check_iff hok' rfl hjudge'] at hfails'
  exact ⟨f, (Subject.failsWith_check_iff hok rfl hjudge).mpr ⟨hfails, rfl⟩,
    (Subject.failsWith_check_iff hok' rfl hjudge').mpr ⟨hfails', rfl⟩⟩

/-- Two responses with the same headers and this limit, whose bodies are these bytes and either do
not break off or do so with the same message. -/
structure Twins (limit : Nat) (bytes bytes' : List UInt8) (r r' : Response) : Prop where
  headers : r.headers = r'.headers
  limits : r.previewLimit = limit ∧ r'.previewLimit = limit
  bodies : r.body.bytes = bytes ∧ r'.body.bytes = bytes'
  faults : r.body.fault? = r'.body.fault?

namespace Twins

variable {r r' : Response}

/-- What there is of the content of the one is said of that of the other. -/
theorem noContentOutcome (ht : Twins limit bytes bytes' r r') (h : SameUpTo limit bytes bytes')
    {result : Except Failure Reply} (hr : r.NoContentOutcome result) :
    r'.NoContentOutcome result := by
  obtain ⟨hheaders, ⟨hlimit, hlimit'⟩, ⟨hbytes, hbytes'⟩, hfaults⟩ := ht
  have hheader : r.contentTypeHeader = r'.contentTypeHeader := by
    rw [Response.contentTypeHeader, Response.contentTypeHeader, hheaders]
  have hempty : r.body.bytes = [] ↔ r'.body.bytes = [] := by
    rw [hbytes, hbytes', ← List.length_eq_zero_iff, ← List.length_eq_zero_iff, h.length]
  have hparagraph : Response.bodyParagraph r.previewLimit r.body.bytes =
      Response.bodyParagraph r'.previewLimit r'.body.bytes := by
    rw [hlimit, hlimit', hbytes, hbytes', h.bodyParagraph_eq]
  cases hr with
  | stream hfault => exact .stream (hfaults ▸ hfault)
  | nothing hwhole hnone hbody =>
    exact .nothing (hfaults ▸ hwhole) (hheader ▸ hnone) (hempty.mp hbody)
  | header hwhole hsome hbody =>
    rw [hheader] at hsome ⊢
    exact .header (hfaults ▸ hwhole) hsome (hempty.mp hbody)
  | body hwhole hnone hbody =>
    rw [hparagraph]
    exact .body (hfaults ▸ hwhole) (hheader ▸ hnone) (mt hempty.mpr hbody)
  | both hwhole hsome hbody =>
    rw [hheader] at hsome ⊢
    rw [hparagraph]
    exact .both (hfaults ▸ hwhole) hsome (mt hempty.mpr hbody)

/-- Where asking the one for no content fails, it fails for the other with the same failure. -/
theorem exists_fails (ht : Twins limit bytes bytes' r r') (h : SameUpTo limit bytes bytes')
    {c c' : Chain} (hok : c.failed = false) (hok' : c'.failed = false)
    (hfailed : (r.call c .noContent).state.1.failed = true) :
    ∃ f, (r.call c .noContent).Fails c f .nothing ∧
      (r'.call c' .noContent).Fails c' f .nothing := by
  obtain ⟨result, hresult⟩ := r.exists_noContentOutcome
  have hends := Response.call_noContent_endsWith hok hresult
  have hends' := Response.call_noContent_endsWith hok' (ht.noContentOutcome h hresult)
  cases result with
  | ok a =>
    have hquiet := (hends.failed_eq_false_iff hok).mpr ⟨a, rfl⟩
    rw [hfailed] at hquiet
    cases hquiet
  | error f => exact ⟨f, hends, hends'⟩

end Twins

/-- CORRECT. Of two byte strings as long as each other and the same up to the limit, messages quote
the same. What they quote ends by telling how many bytes more there are exactly where there are some
beyond the limit, with their number, and worked out in words it is the same, so that no slice lies
beyond the end and no difference below zero. Where both fail a check, there is one failure that both
report; and where there is to be no content in responses with the same headers that have these bytes
for bodies, the other fails wherever the one does, with the same failure. -/
theorem nothing_told_beyond_limit (limit : Nat) (bytes bytes' : List UInt8)
    (h : SameUpTo limit bytes bytes') :
    preview bytes limit = preview bytes' limit ∧
    (∀ k, (∃ shown, preview bytes limit = shown ++ s!"... ({k} more bytes)") ↔
      0 < k ∧ bytes.length = limit + k) ∧
    (∀ word : UInt64, word.toNat = limit → bytes.length < 2 ^ 64 →
      wordPreview? bytes word = some (preview bytes limit)) ∧
    (∀ (k : BodyCheck) (c c' : Chain), c.failed = false → c'.failed = false →
      (Subject.body bytes limit).Fails [] (.checkBody k) c →
      (Subject.body bytes' limit).Fails [] (.checkBody k) c' →
      ∃ f, (Subject.body bytes limit).FailsWith [] (.checkBody k) c f ∧
        (Subject.body bytes' limit).FailsWith [] (.checkBody k) c' f) ∧
    (∀ (r r' : Response) (c c' : Chain), Twins limit bytes bytes' r r' → c.failed = false →
      c'.failed = false → (r.call c .noContent).state.1.failed = true →
      ∃ f, (r.call c .noContent).Fails c f .nothing ∧
        (r'.call c' .noContent).Fails c' f .nothing) := by
  refine ⟨h.preview_eq, preview_ends_iff bytes limit, ?_,
    fun k c c' hok hok' => h.exists_failsWith hok hok',
    fun r r' c c' ht hok hok' => ht.exists_fails h hok hok'⟩
  rintro word rfl hlength
  exact wordPreview?_eq word hlength

/-- Three bytes in two pieces of which messages quote two, and others of which the third is of no
character: both are looked through for a letter, and both should be no content. -/
theorem nothing_told_beyond_limit_of_endings :
    let c : Chain := { reporter := .recording }
    let bytes : List UInt8 := [0x61, 0x62, 0x63]
    let bytes' : List UInt8 := [0x61, 0x62, 0xFF]
    let other := { Response.wordy with body := .kept bytes' }
    SameUpTo 2 bytes bytes' ∧ c.failed = false ∧
      wordPreview? bytes 2 = some (preview bytes' 2) ∧
      (∃ f, (Subject.body bytes 2).FailsWith [] (.checkBody (.contains [0x7A])) c f ∧
        (Subject.body bytes' 2).FailsWith [] (.checkBody (.contains [0x7A])) c f) ∧
      ∃ f, (Response.wordy.call c .noContent).Fails c f .nothing ∧
        (other.call c .noContent).Fails c f .nothing := by
  intro c bytes bytes' other
  have hsame : SameUpTo 2 bytes bytes' := ⟨rfl, by decide⟩
  have hfails (b : List UInt8) (h : Text.containsList [0x7A] b = false) :
      (Subject.body b 2).Fails [] (.checkBody (.contains [0x7A])) c :=
    (Subject.fails_check_iff rfl rfl rfl).mpr h
  have htwins : Twins 2 bytes bytes' Response.wordy other := ⟨rfl, ⟨rfl, rfl⟩, ⟨rfl, rfl⟩, rfl⟩
  obtain ⟨hpreview, -, hwords, hchecks, hcalls⟩ := nothing_told_beyond_limit 2 bytes bytes' hsame
  refine ⟨hsame, rfl, ?_, hchecks _ c c rfl rfl (hfails _ rfl) (hfails _ rfl),
    hcalls _ _ c c htwins rfl rfl (by decide +kernel)⟩
  rw [← hpreview]
  exact hwords 2 rfl (by decide)

end Attest
