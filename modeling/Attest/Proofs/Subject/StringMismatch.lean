import Attest.Proofs.Subject.Calls
import Attest.Proofs.Text.Lines
import Attest.Proofs.Text.Quoted

/-!
What a mismatch of strings shows.

The message of two strings that should be equal shows the one that was expected and the one there
was, each in quotes. The first quotation ends where the second part of the message begins, so both
strings are told by it (`stringMismatch_inj`); and as nothing in quotes is a line break, it has five
lines whatever the strings are (`lines_stringMismatch`).
-/

namespace Attest

open Text (quote)
open Unicode (isPrintable)

/-- The failure of a string that is not the expected one. -/
def stringMismatch (expected actual : String) : Failure :=
  .value (Failure.mismatchMessage "string" (quote expected) (quote actual))

/-- The lines of its report. -/
def mismatchLines (expected actual : String) : List String :=
  ["value mismatch: expected string equal to:", "  " ++ quote expected, "", "but got:",
    "  " ++ quote actual]

variable {e a e' a' : String}

/-- The parts of a mismatch are told apart, whatever characters they are of. -/
theorem stringMismatch_inj (h : (stringMismatch e a).text = (stringMismatch e' a').text) :
    e = e' ∧ a = a' := by
  have hchars : (quote e).toList ++ ("\n\nbut got:\n  ".toList ++ (quote a).toList) =
      (quote e').toList ++ ("\n\nbut got:\n  ".toList ++ (quote a').toList) := by
    simpa [stringMismatch, Failure.text, Failure.value, Failure.mismatchMessage]
      using congrArg String.toList h
  obtain ⟨rfl, hrest⟩ := Text.quote_append_inj hchars
  have hquoted : quote a = quote a' := String.toList_inj.mp (List.append_cancel_left hrest)
  exact ⟨rfl, Text.quote_injective hquoted⟩

/-! ### Lines -/

/-- A report is its lines with breaks between them. -/
theorem stringMismatch_toList (e a : String) : (stringMismatch e a).text.toList =
    ['\n'].intercalate ((mismatchLines e a).map String.toList) := by
  simp [stringMismatch, mismatchLines, Failure.text, Failure.value, Failure.mismatchMessage,
    FailureKind.label, List.intercalate_cons_cons]

theorem isPrintable_of_mem_mismatchLines :
    ∀ l ∈ (mismatchLines e a).map String.toList, ∀ c ∈ l, isPrintable c = true := by
  rw [List.forall_mem_map]
  intro l hl c hc
  have hword : ∀ w ∈ ["value mismatch: expected string equal to:", "", "but got:", "  "],
      ∀ c ∈ w.toList, isPrintable c = true := by
    have hascii : ∀ w ∈ ["value mismatch: expected string equal to:", "", "but got:", "  "],
        w.toList.all (fun c => ' ' ≤ c && c ≤ '~') = true := by decide +kernel
    exact fun w hw => Text.isPrintable_of_ascii (hascii w hw)
  have hindented {t : String} (h : c ∈ ("  " ++ quote t).toList) : isPrintable c = true := by
    rw [String.toList_append, List.mem_append] at h
    rcases h with hindent | hquoted
    · exact hword _ (by simp) c hindent
    · exact Text.isPrintable_of_mem_quote hquoted
  simp only [mismatchLines, List.mem_cons, List.not_mem_nil, or_false] at hl
  rcases hl with rfl | rfl | rfl | rfl | rfl
  · exact hword _ (by simp) c hc
  · exact hindented hc
  · exact hword _ (by simp) c hc
  · exact hword _ (by simp) c hc
  · exact hindented hc

/-- Neither a line break nor a carriage return shows. -/
theorem lines_stringMismatch (e a : String) :
    lines (stringMismatch e a).text = mismatchLines e a := by
  have hout (x : Char) (hx : isPrintable x = false) :
      ∀ l ∈ (mismatchLines e a).map String.toList, x ∉ l := by
    intro l hl hin
    rw [isPrintable_of_mem_mismatchLines l hl x hin] at hx
    cases hx
  have hlines : HasLines (stringMismatch e a).text.toList
      ((mismatchLines e a).map String.toList) := by
    rw [stringMismatch_toList]
    refine hasLines_intercalate (hout '\n' (by decide)) (fun l hl hend => ?_) ?_
    · exact hout '\r' (by decide) l hl (List.mem_of_getLast? hend)
    · simp [mismatchLines]
  rw [hlines.lines_eq, List.map_map]
  simp

/-- But for the breaks between its lines a report shows itself. -/
theorem isPrintable_of_mem_stringMismatch :
    ∀ c ∈ (stringMismatch e a).text.toList, c = '\n' ∨ isPrintable c = true := by
  intro c hc
  rw [stringMismatch_toList] at hc
  rcases Text.mem_intercalate hc with hbreak | ⟨l, hl, hin⟩
  · exact .inl hbreak
  · exact .inr (isPrintable_of_mem_mismatchLines l hl c hin)

namespace Subject

variable {c : Chain} {f : Failure}

/-- A check for equality fails with the mismatch, and only where there is one. -/
theorem failsWith_equal_iff (hok : c.failed = false) :
    (text a).FailsWith [] (.checkText (.equal e)) c f ↔ a ≠ e ∧ f = stringMismatch e a :=
  (failsWith_check_iff hok rfl rfl).trans (and_congr_left' beq_eq_false_iff_ne)

/-- CORRECT. A string that should be equal to another fails the check exactly where it differs, and
its report tells both: two checks that fail with the same report expected the same string and had
the same before them. The two quotations in it differ, it has five lines whatever the strings are,
and but for the breaks between these all its characters are printable. -/
theorem string_mismatch_unambiguous (expected actual expected' actual' : String) (c c' : Chain)
    (hok : c.failed = false) (hok' : c'.failed = false) :
    (∀ f, (text actual).FailsWith [] (.checkText (.equal expected)) c f ↔
      actual ≠ expected ∧ f = stringMismatch expected actual) ∧
    (∀ f f', (text actual).FailsWith [] (.checkText (.equal expected)) c f →
      (text actual').FailsWith [] (.checkText (.equal expected')) c' f' → f.text = f'.text →
      expected = expected' ∧ actual = actual') ∧
    (∀ f, (text actual).FailsWith [] (.checkText (.equal expected)) c f →
      quote expected ≠ quote actual ∧
      lines f.text = ["value mismatch: expected string equal to:", "  " ++ quote expected, "",
        "but got:", "  " ++ quote actual] ∧
      ∀ ch ∈ f.text.toList, ch = '\n' ∨ isPrintable ch = true) := by
  refine ⟨fun f => failsWith_equal_iff hok, fun f f' hfails hfails' htext => ?_, fun f hfails => ?_⟩
  · obtain ⟨-, rfl⟩ := (failsWith_equal_iff hok).mp hfails
    obtain ⟨-, rfl⟩ := (failsWith_equal_iff hok').mp hfails'
    exact stringMismatch_inj htext
  · obtain ⟨hne, rfl⟩ := (failsWith_equal_iff hok).mp hfails
    have hquoted : quote expected ≠ quote actual := fun h => hne (Text.quote_injective h).symm
    exact ⟨hquoted, lines_stringMismatch expected actual, isPrintable_of_mem_stringMismatch⟩

/-- A text that looks like the end of a message and another that shows how its first character is
written: unquoted, the two messages would be hard to tell. -/
theorem string_mismatch_unambiguous_in_escapes :
    let c : Chain := { reporter := .recording }
    let e := "a\"\n\nbut got:\n  \"b"
    let f := stringMismatch e "\n"
    let f' := stringMismatch e "\\n"
    c.failed = false ∧ (text "\n").FailsWith [] (.checkText (.equal e)) c f ∧
      (text "\\n").FailsWith [] (.checkText (.equal e)) c f' ∧ f.text ≠ f'.text ∧
      (lines f.text).length = 5 := by
  intro c e f f'
  obtain ⟨hfails, htold, hshown⟩ := string_mismatch_unambiguous e "\n" e "\\n" c c rfl rfl
  have hfirst := (hfails f).mpr ⟨by decide, rfl⟩
  have hsecond : (text "\\n").FailsWith [] (.checkText (.equal e)) c f' :=
    (failsWith_equal_iff rfl).mpr ⟨by decide, rfl⟩
  refine ⟨rfl, hfirst, hsecond, fun htext => ?_, ?_⟩
  · obtain ⟨-, hactual⟩ := htold f f' hfirst hsecond htext
    exact absurd hactual (by decide)
  · rw [(hshown f hfirst).2.1]
    rfl

end Subject

end Attest
