import Attest.Proofs.Http.Fields
import Attest.Proofs.Response.Outcome
import Attest.Proofs.Subject.Calls

/-!
Looking headers up.

A response and its headers can be asked for a header in five ways. All of them see the texts of the
fields that have the name (`Headers.texts_ofFields`): they hand out the list of these or the first
of them, or say whether there are any (`Response.header_lookups_agree`).
-/

namespace Attest

/-! ### The texts of a name -/

/-- The values of the fields of this name as text, in the order of the fields. -/
def textsNamed (name : String) (fs : List HeaderField) : List String :=
  (valuesNamed name fs).map Text.Utf8.decodeLossy

namespace Headers

variable {h : Headers} {fs : List HeaderField} {name name' : String}

theorem texts_ofFields (hmake : ofFields? fs .empty = .ok h)
    (hsame : Text.sameIgnoringCase name' name = true) : h.texts name' = textsNamed name fs := by
  rw [texts, getAll_ofFields hmake, valuesNamed_congr hsame, textsNamed]

theorem contains_iff : h.contains name = true ↔ h.texts name ≠ [] := by
  simp [contains, texts]

theorem contains_eq_false_iff : h.contains name = false ↔ h.texts name = [] := by
  simp [contains, texts]

end Headers

/-! ### Calls on headers -/

namespace Subject

variable {h : Headers} {name : String} {c : Chain} (hok : c.failed = false)
include hok

theorem gives_headerValues :
    (headers h).Gives [] (.headerValues name) c (.texts (h.texts name)) :=
  gives_of_found hok rfl rfl rfl

theorem gives_headerValue {v : String} :
    (headers h).Gives [] (.headerValue name) c (.subject (.text v)) ↔
      (h.texts name).head? = some v := by
  refine (gives_iff hok rfl rfl).trans ?_
  rw [← Headers.first?]
  cases hfirst : h.first? name <;>
    simp [Judgement.found, HeadersCheck.firstValue, hfirst, Except.map]

theorem fails_headerValue :
    (headers h).Fails [] (.headerValue name) c ↔ h.texts name = [] := by
  refine (fails_iff hok rfl rfl).trans ?_
  rw [← List.head?_eq_none_iff, ← Headers.first?]
  cases hfirst : h.first? name <;>
    simp [Judgement.found, HeadersCheck.firstValue, hfirst, Except.map]

theorem passes_hasHeader :
    (headers h).Passes [] (.checkHeaders (.containsKey name)) c ↔ h.texts name ≠ [] :=
  (passes_iff hok rfl rfl).trans Headers.contains_iff

theorem fails_hasHeader :
    (headers h).Fails [] (.checkHeaders (.containsKey name)) c ↔ h.texts name = [] :=
  (fails_check_iff hok rfl rfl).trans Headers.contains_eq_false_iff

theorem passes_lacksHeader :
    (headers h).Passes [] (.checkHeaders (.notContainsKey name)) c ↔ h.texts name = [] :=
  (passes_iff hok rfl rfl).trans
    ((Bool.not_eq_true' _).to_iff.trans Headers.contains_eq_false_iff)

theorem fails_lacksHeader :
    (headers h).Fails [] (.checkHeaders (.notContainsKey name)) c ↔ h.texts name ≠ [] :=
  (fails_check_iff hok rfl rfl).trans
    ((Bool.not_eq_false' _).to_iff.trans Headers.contains_iff)

end Subject

/-! ### All ways to look a header up -/

namespace Response

variable {r : Response} {c : Chain}

theorem headers_gives (hok : c.failed = false) :
    (r.call c .headers).Gives c (.subject (.headers r.headers)) := r.call_gives hok rfl

theorem header_gives (name : String) (hok : c.failed = false) :
    (r.call c (.header name)).Gives c (.subject (.text (((r.headers.texts name).head?).getD ""))) :=
  r.call_gives hok rfl

/-- CORRECT. A response whose headers are made of fields, each after those before it, is asked for a
header on an OK chain, by any text and in any letter case. What counts are the texts of the fields
that have the name, in their order, of which there are none for a text that is no header name. The
headers of the response list these texts; the response itself hands out the first of them, or the
empty text where there are none; the headers hand out the first of them, and fail where there are
none. They pass as having the name where there are some, and as not having it where there are none,
and otherwise fail. -/
theorem header_lookups_agree (r : Response) (fs : List HeaderField) (name name' : String)
    (c : Chain) (hok : c.failed = false) (hmake : Headers.ofFields? fs .empty = .ok r.headers)
    (hsame : Text.sameIgnoringCase name' name = true) :
    let h : Subject := .headers r.headers
    (r.call c .headers).Gives c (.subject h) ∧
      (headerName? name = none → textsNamed name fs = []) ∧
      h.Gives [] (.headerValues name') c (.texts (textsNamed name fs)) ∧
      (r.call c (.header name')).Gives c
        (.subject (.text ((textsNamed name fs).head?.getD ""))) ∧
      (∀ v, h.Gives [] (.headerValue name') c (.subject (.text v)) ↔
        (textsNamed name fs).head? = some v) ∧
      (h.Fails [] (.headerValue name') c ↔ textsNamed name fs = []) ∧
      (h.Passes [] (.checkHeaders (.containsKey name')) c ↔ textsNamed name fs ≠ []) ∧
      (h.Fails [] (.checkHeaders (.containsKey name')) c ↔ textsNamed name fs = []) ∧
      (h.Passes [] (.checkHeaders (.notContainsKey name')) c ↔ textsNamed name fs = []) ∧
      (h.Fails [] (.checkHeaders (.notContainsKey name')) c ↔ textsNamed name fs ≠ []) := by
  intro h
  have htexts : r.headers.texts name' = textsNamed name fs :=
    Headers.texts_ofFields hmake hsame
  have hnone : headerName? name = none → textsNamed name fs = [] := fun hname => by
    rw [textsNamed, Headers.valuesNamed_of_no_name hmake hname, List.map_nil]
  refine ⟨headers_gives hok, hnone, ?_⟩
  rw [← htexts]
  exact ⟨Subject.gives_headerValues hok, header_gives name' hok,
    fun v => Subject.gives_headerValue hok, Subject.fails_headerValue hok,
    Subject.passes_hasHeader hok, Subject.fails_hasHeader hok,
    Subject.passes_lacksHeader hok, Subject.fails_lacksHeader hok⟩

/-- Two cookies, the second of them no UTF-8, with another field between them. -/
theorem header_lookups_agree_on_cookies :
    let c : Chain := { reporter := .recording }
    let fs : List HeaderField :=
      [.of "Set-Cookie" [0x61], .of "X" [], .of "set-cookie" [0x62, 0xFF]]
    let r : Response :=
      { status := .ok
        headers := ⟨[("set-cookie", [[0x61], [0x62, 0xFF]]), ("x", [[]])]⟩
        body := .unread none }
    c.failed = false ∧ Headers.ofFields? fs .empty = .ok r.headers ∧
      Text.sameIgnoringCase "SET-cookie" "Set-Cookie" = true ∧
      (Subject.headers r.headers).Gives [] (.headerValues "SET-cookie") c
        (.texts ["a", "b\uFFFD"]) ∧
      (r.call c (.header "SET-cookie")).Gives c (.subject (.text "a")) ∧
      (Subject.headers r.headers).Passes [] (.checkHeaders (.containsKey "x")) c ∧
      headerName? "no name" = none ∧
      (Subject.headers r.headers).Fails [] (.headerValue "no name") c := by
  intro c fs r
  have hmake : Headers.ofFields? fs .empty = .ok r.headers := by decide +kernel
  have hsame : Text.sameIgnoringCase "SET-cookie" "Set-Cookie" = true := by decide +kernel
  have htexts : textsNamed "Set-Cookie" fs = ["a", "b\uFFFD"] := by decide +kernel
  have hname : headerName? "no name" = none := by decide +kernel
  obtain ⟨-, -, hvalues, hfirst, -⟩ :=
    header_lookups_agree r fs "Set-Cookie" "SET-cookie" c rfl hmake hsame
  obtain ⟨-, -, -, -, -, -, hcontains, -⟩ :=
    header_lookups_agree r fs "X" "x" c rfl hmake (by decide +kernel)
  obtain ⟨-, hnone, -, -, -, hfails, -⟩ :=
    header_lookups_agree r fs "no name" "no name" c rfl hmake (by decide +kernel)
  rw [htexts] at hvalues hfirst
  exact ⟨rfl, hmake, hsame, hvalues, hfirst, hcontains.mpr (by decide +kernel), hname,
    hfails.mpr (hnone hname)⟩

end Response

end Attest
