import Attest.Console

/-!
Lines.

A line ends at a line break, and a carriage return right before the break belongs to it; any other
is a character of its line. What stands after the last break is a line if there is something
(`HasLines`). So every text has its lines, and no others (`hasLines_iff`), and no line has a break
in it (`HasLines.not_mem`).
-/

namespace Attest

/-- The lines that a text has. -/
inductive HasLines : List Char → List (List Char) → Prop
  | nothing : HasLines [] []
  | last {l : List Char} (hl : '\n' ∉ l) (hne : l ≠ []) : HasLines l [l]
  | feed {l rest : List Char} {ls : List (List Char)} (hl : '\n' ∉ l)
      (hend : l.getLast? ≠ some '\r') (h : HasLines rest ls) :
      HasLines (l ++ '\n' :: rest) (l :: ls)
  | returnFeed {l rest : List Char} {ls : List (List Char)} (hl : '\n' ∉ l)
      (h : HasLines rest ls) : HasLines (l ++ '\r' :: '\n' :: rest) (l :: ls)

variable {s l : List Char} {ls : List (List Char)}

theorem HasLines.not_mem (h : HasLines s ls) : ∀ l ∈ ls, '\n' ∉ l := by
  induction h with
  | nothing => simp
  | last hl hne => simpa using hl
  | feed hl hend h ih => exact List.forall_mem_cons.mpr ⟨hl, ih⟩
  | returnFeed hl h ih => exact List.forall_mem_cons.mpr ⟨hl, ih⟩

/-- Only the empty text has no line. -/
theorem HasLines.eq_nil_iff (h : HasLines s ls) : ls = [] ↔ s = [] := by
  cases h with
  | nothing => simp
  | last hl hne => simp [hne]
  | feed hl hend h => simp
  | returnFeed hl h => simp

/-- Lines put together with breaks between them, none of which ends in a carriage return. -/
theorem hasLines_intercalate : ∀ {ls : List (List Char)}, (∀ l ∈ ls, '\n' ∉ l) →
    (∀ l ∈ ls, l.getLast? ≠ some '\r') → ls.getLast? ≠ some [] →
    HasLines (['\n'].intercalate ls) ls
  | [], _, _, _ => .nothing
  | [l], hl, _, hlast => by
    rw [List.intercalate_singleton]
    exact .last (hl l (by simp)) (by simpa using hlast)
  | l :: m :: ls, hl, hend, hlast => by
    rw [List.intercalate_cons_cons, List.append_assoc, List.singleton_append]
    refine .feed (hl l (by simp)) (hend l (by simp)) (hasLines_intercalate ?_ ?_ ?_)
    · exact fun k hk => hl k (List.mem_cons_of_mem l hk)
    · exact fun k hk => hend k (List.mem_cons_of_mem l hk)
    · rwa [List.getLast?_cons_cons] at hlast

/-! ### Splitting -/

/-- The line under way ends where the next break is. By induction on the text after it. -/
theorem hasLines_splitLines (line s : List Char) (hline : '\n' ∉ line) :
    HasLines (line.reverse ++ s) (splitLines line s) := by
  fun_induction splitLines line s with
  | case1 => exact .nothing
  | case2 line hne =>
    have hline' : '\n' ∉ line.reverse := by simpa using hline
    rw [List.append_nil]
    exact .last hline' (by simpa using hne)
  | case3 line rest ih =>
    have hrest : HasLines rest (splitLines [] rest) := ih (by simp)
    split
    next before =>
      have hbefore : '\n' ∉ before.reverse := by simp_all
      simpa using HasLines.returnFeed hbefore hrest
    next hnot =>
      refine .feed (by simpa using hline) ?_ hrest
      rw [List.getLast?_reverse]
      intro hhead
      obtain ⟨before, rfl⟩ := List.head?_eq_some_iff.mp hhead
      exact hnot before rfl
  | case4 line c rest hc ih =>
    have hnext : '\n' ∉ c :: line := by
      rw [List.mem_cons, not_or]
      exact ⟨fun h => hc h.symm, hline⟩
    simpa using ih hnext

/-- Characters without a break go to the line under way. -/
theorem splitLines_append (line rest : List Char) (hl : '\n' ∉ l) :
    splitLines line (l ++ rest) = splitLines (l.reverse ++ line) rest := by
  induction l generalizing line with
  | nil => rfl
  | cons c l ih =>
    obtain ⟨hc, hl⟩ := not_or.mp (mt List.mem_cons.mpr hl)
    rw [List.cons_append, splitLines, ih _ hl]
    · simp
    · exact fun h => hc h.symm

theorem HasLines.splitLines_eq (h : HasLines s ls) : splitLines [] s = ls := by
  induction h with
  | nothing => rfl
  | @last l hl hne =>
    have hline := splitLines_append [] [] hl
    rw [List.append_nil, List.append_nil] at hline
    rw [hline, splitLines, List.reverse_reverse]
    simpa using hne
  | @feed l rest ls hl hend h ih =>
    rw [splitLines_append _ _ hl, List.append_nil, splitLines, ih, List.reverse_reverse]
    intro before hbefore
    refine hend ?_
    rw [List.getLast?_eq_head?_reverse, hbefore, List.head?_cons]
  | @returnFeed l rest ls hl h ih =>
    have hchars : l ++ '\r' :: '\n' :: rest = (l ++ ['\r']) ++ '\n' :: rest := by simp
    have hreturn : '\n' ∉ l ++ ['\r'] := by simp [hl]
    rw [hchars, splitLines_append _ _ hreturn]
    simp [splitLines, ih]

/-- A text is split into the lines that it has. -/
theorem hasLines_iff : HasLines s ls ↔ splitLines [] s = ls := by
  refine ⟨HasLines.splitLines_eq, ?_⟩
  rintro rfl
  exact hasLines_splitLines [] s (by simp)

theorem HasLines.lines_eq {t : String} (h : HasLines t.toList ls) :
    lines t = ls.map String.ofList := by
  rw [lines, h.splitLines_eq]

theorem hasLines_lines (t : String) : HasLines t.toList ((lines t).map String.toList) := by
  have hlines : HasLines t.toList (splitLines [] t.toList) := hasLines_iff.mpr rfl
  simpa [lines] using hlines

end Attest
