import Attest.Proofs.Text.Lines
import Attest.Proofs.Text.Split

/-!
Messages on a console.

A message is shown as its lines, or as one empty line if it has none (`shownLines`): the first after
the badge, and each of the others on a line of its own, indented. No line has a break in it, so they
are read back line by line (`readBack_layout`), whatever they begin with, and messages that are
shown alike have the same lines (`format_keeps_lines`).
-/

namespace Attest.Console

/-- The lines under which a message is shown. -/
def shownLines (message : String) : List String :=
  match lines message with
  | [] => [""]
  | ls => ls

/-- Lines put under each other, the first after `head`. -/
def layout (head : String) : List String → String
  | [] => ""
  | first :: more => head ++ first ++ String.join (more.map fun l => "\n" ++ indent ++ l)

/-- What stands on the lines of an output after `head` and the indents. None: it is laid out in some
other way. -/
def readBack (head output : String) : Option (List String) :=
  match Text.splitAt '\n' output.toList with
  | [] => none
  | first :: more => do
    let l ← first.dropPrefix? head.toList
    let ls ← more.mapM fun l => l.dropPrefix? indent.toList
    return (l :: ls).map String.ofList

theorem format_eq (c : Console) (around : Surroundings) (message : String)
    (hplain : c.timestamps = false) :
    c.format around message =
      layout (badge around (c.isColored around.isTerminal) ++ " ") (shownLines message) := by
  unfold format shownLines
  rw [hplain]
  cases lines message with
  | nil => simp [layout]
  | cons first more => simp [layout]

/-! ### Reading back -/

section ReadBack

variable {head : String} {ls : List String}

theorem not_mem_of_mem_lines {message : String} : ∀ l ∈ lines message, '\n' ∉ l.toList :=
  fun _ hl => (hasLines_lines message).not_mem _ (List.mem_map_of_mem hl)

theorem not_mem_of_mem_shownLines {message : String} :
    ∀ l ∈ shownLines message, '\n' ∉ l.toList := by
  unfold shownLines
  split
  next => simp
  next => exact not_mem_of_mem_lines

/-- Only the empty message has no lines. -/
theorem shownLines_eq (message : String) :
    shownLines message = if message = "" then [""] else lines message := by
  have hnone : lines message = [] ↔ message = "" := by
    rw [← String.toList_eq_nil_iff, ← (hasLines_lines message).eq_nil_iff, List.map_eq_nil_iff]
  unfold shownLines
  split
  next h => rw [if_pos (hnone.mp h)]
  next h => rw [if_neg (mt hnone.mpr h)]

theorem shownLines_ne_nil (message : String) : shownLines message ≠ [] := by
  unfold shownLines
  split
  next => simp
  next hne => exact fun h => hne h

/-- What is laid out is its lines with breaks between them. -/
theorem layout_toList (head first : String) (more : List String) :
    (layout head (first :: more)).toList =
      ['\n'].intercalate ((head ++ first).toList :: more.map fun l => (indent ++ l).toList) := by
  rw [Text.intercalate_cons]
  simp [layout, String.toList_join, List.flatMap_map]

/-- Splitting at the breaks gives one line for each, in order. -/
theorem splitAt_layout {first : String} {more : List String} (hhead : '\n' ∉ head.toList)
    (hls : ∀ l ∈ first :: more, '\n' ∉ l.toList) :
    Text.splitAt '\n' (layout head (first :: more)).toList =
      (head ++ first).toList :: more.map fun l => (indent ++ l).toList := by
  have hindent : '\n' ∉ indent.toList := by decide
  rw [layout_toList, Text.splitAt_intercalate (List.cons_ne_nil _ _)]
  rw [List.forall_mem_cons, List.forall_mem_map]
  refine ⟨?_, fun l hl => ?_⟩
  · simpa [hhead] using hls first (by simp)
  · simpa [hindent] using hls l (List.mem_cons_of_mem first hl)

theorem readBack_layout (hhead : '\n' ∉ head.toList) (hne : ls ≠ [])
    (hls : ∀ l ∈ ls, '\n' ∉ l.toList) : readBack head (layout head ls) = some ls := by
  obtain ⟨first, more, rfl⟩ := List.exists_cons_of_ne_nil hne
  have hdrop (p l : String) : (p ++ l).toList.dropPrefix? p.toList = some l.toList := by
    rw [String.toList_append]
    exact List.dropPrefix?_append_of_beq _ (beq_self_eq_true _)
  have hmore (ms : List String) :
      (ms.map fun l => (indent ++ l).toList).mapM (fun l => l.dropPrefix? indent.toList) =
        some (ms.map String.toList) := by
    induction ms with
    | nil => rfl
    | cons m ms ih =>
      rw [List.map_cons, List.mapM_cons, hdrop, ih]
      rfl
  rw [readBack, splitAt_layout hhead hls]
  simp only [hdrop, hmore]
  simp

end ReadBack

theorem indent_append_toList (l : String) :
    (indent ++ l).toList = List.replicate 7 ' ' ++ l.toList := by
  rw [String.toList_append]
  rfl

theorem not_mem_badge (around : Surroundings) (colored : Bool) :
    '\n' ∉ (badge around colored ++ " ").toList := by
  unfold badge styled
  cases colored <;> cases around.writesStyles <;> decide

/-- CORRECT. Without the time, and whatever the colours, a console shows the badge, a blank and the
first line of the message, and each line after it on a line of its own after seven blanks. Split at
its breaks, the output is these lines and no others; without the badge and the indents they are the
lines that the message has, or one empty line if it has none. So messages are shown alike exactly if
these are the same. -/
theorem format_keeps_lines (color : ColorChoice) (around : Surroundings) (message : String) :
    let c : Console := { timestamps := false, color := color }
    let head := badge around (c.isColored around.isTerminal) ++ " "
    HasLines message.toList ((lines message).map String.toList) ∧
    (shownLines message = if message = "" then [""] else lines message) ∧
    (∃ first more, shownLines message = first :: more ∧
      c.format around message = head ++ first ++
        String.join (more.map fun l => "\n" ++ String.ofList (List.replicate 7 ' ') ++ l) ∧
      Text.splitAt '\n' (c.format around message).toList = (head ++ first).toList ::
        more.map fun l => List.replicate 7 ' ' ++ l.toList) ∧
    readBack head (c.format around message) = some (shownLines message) ∧
    ∀ message', c.format around message = c.format around message' ↔
      shownLines message = shownLines message' := by
  intro c head
  have hformat (m : String) : c.format around m = layout head (shownLines m) :=
    format_eq c around m rfl
  have hread (m : String) : readBack head (c.format around m) = some (shownLines m) := by
    rw [hformat]
    exact readBack_layout (not_mem_badge _ _) (shownLines_ne_nil m) not_mem_of_mem_shownLines
  obtain ⟨first, more, hshown⟩ := List.exists_cons_of_ne_nil (shownLines_ne_nil message)
  refine ⟨hasLines_lines message, shownLines_eq message, ⟨first, more, hshown, ?_, ?_⟩,
    hread message, fun message' => ⟨fun h => ?_, fun h => ?_⟩⟩
  · rw [hformat, hshown]
    rfl
  · have hbreaks : ∀ l ∈ shownLines message, '\n' ∉ l.toList := not_mem_of_mem_shownLines
    rw [hshown] at hbreaks
    rw [hformat, hshown, splitAt_layout (not_mem_badge _ _) hbreaks,
      List.map_congr_left fun l _ => indent_append_toList l]
  · have hsame := hread message
    rw [h, hread message'] at hsame
    exact (Option.some.inj hsame).symm
  · rw [hformat, hformat, h]

end Attest.Console
