import InlineLinkage.BuildScript
import InlineLinkage.Text.Lines
import InlineLinkage.Text.Part
import Mathlib.Tactic

/-!
# Lines of composed texts

A line feed cuts a text in two whose lines are found apart. So the last lines of a text are known when
its end is, whatever stands before. Lines that were written one after the other come back when their text
is cut.
-/
namespace InlineLinkage

namespace Text

theorem linesFrom_append (line s t : List Char) :
    linesFrom line (s ++ '\n' :: t) = linesFrom line (s ++ ['\n']) ++ lines t := by
  induction s generalizing line with
  | nil => rfl
  | cons c s ih =>
    simp only [List.cons_append, linesFrom]
    by_cases hc : c = '\n'
    · simp only [if_pos hc, ih, List.cons_append]
    · simp only [if_neg hc, ih]

theorem lines_append (s t : List Char) : lines (s ++ '\n' :: t) = lines (s ++ ['\n']) ++ lines t :=
  linesFrom_append [] s t

theorem linesFrom_of_not_mem {s : List Char} (hs : '\n' ∉ s) (line t : List Char) :
    linesFrom line (s ++ t) = linesFrom (s.reverse ++ line) t := by
  induction s generalizing line with
  | nil => rfl
  | cons c s ih =>
    obtain ⟨hc, hs⟩ := not_or.mp (List.mem_cons.not.mp hs)
    rw [List.cons_append, linesFrom, if_neg (Ne.symm hc), ih hs, List.reverse_cons,
      List.append_assoc, List.singleton_append]

theorem finishLine_reverse {s : List Char} (hr : s.getLast? ≠ some '\r') :
    finishLine s.reverse = s := by
  rw [← List.head?_reverse] at hr
  unfold finishLine
  split
  · rename_i h
    rw [h] at hr
    exact absurd rfl hr
  · exact List.reverse_reverse s

/-- The first line, when it is finished and no carriage return is at its end. -/
theorem lines_cons {s : List Char} (hs : '\n' ∉ s) (hr : s.getLast? ≠ some '\r') (t : List Char) :
    lines (s ++ '\n' :: t) = s :: lines t := by
  rw [lines, linesFrom_of_not_mem hs, List.append_nil, linesFrom, if_pos rfl, finishLine_reverse hr]
  rfl

/-- A last line that is not finished. -/
theorem lines_of_not_mem {s : List Char} (hs : '\n' ∉ s) (hne : s ≠ []) : lines s = [s] := by
  have h := linesFrom_of_not_mem hs [] []
  rw [List.append_nil, List.append_nil] at h
  rw [lines, h, linesFrom, if_neg (List.reverse_ne_nil_iff.mpr hne), List.reverse_reverse]

/-- The text after the first place where a given one stands. -/
def textAfter? (part : List Char) : List Char → Option (List Char)
  | [] => dropStart? part []
  | c :: s =>
    match dropStart? part (c :: s) with
    | some rest => some rest
    | none => textAfter? part s

end Text

theorem unlines_cons (l : List Char) (ls : List (List Char)) :
    unlines (l :: ls) = l ++ '\n' :: unlines ls := by
  rw [unlines, List.flatMap_cons, List.append_assoc, List.singleton_append, ← unlines]

theorem unlines_append (ls ls' : List (List Char)) : unlines (ls ++ ls') = unlines ls ++ unlines ls' :=
  List.flatMap_append

theorem getLast?_unlines {ls : List (List Char)} (h : ls ≠ []) :
    (unlines ls).getLast? = some '\n' := by
  obtain ⟨init, last, rfl⟩ := (List.eq_nil_or_concat' ls).resolve_left h
  rw [unlines_append, unlines_cons, List.getLast?_append_of_ne_nil _ (by simp), unlines,
    List.flatMap_nil, List.getLast?_append_cons]
  rfl

/-- Lines are read back from the text that they are written to. -/
theorem Text.lines_unlines {ls : List (List Char)}
    (h : ∀ l ∈ ls, '\n' ∉ l ∧ l.getLast? ≠ some '\r') : lines (unlines ls) = ls := by
  induction ls with
  | nil => rfl
  | cons l ls ih =>
    obtain ⟨⟨hfeed, hlast⟩, hls⟩ := List.forall_mem_cons.mp h
    rw [unlines_cons, lines_cons hfeed hlast, ih hls]

/-- Lines come back from cutting a text that starts with them at its line feeds. -/
theorem splitOn_unlines_append {ls : List (List Char)} (h : ∀ l ∈ ls, '\n' ∉ l) (s : List Char) :
    (unlines ls ++ s).splitOn '\n' = ls ++ s.splitOn '\n' := by
  induction ls with
  | nil => rfl
  | cons l ls ih =>
    obtain ⟨hl, hls⟩ := List.forall_mem_cons.mp h
    rw [unlines_cons, List.append_assoc, List.cons_append,
      List.splitOn_append_cons_self_of_not_mem hl, ih hls, List.cons_append]

/-- Nothing is left after the last line. -/
theorem splitOn_unlines {ls : List (List Char)} (h : ∀ l ∈ ls, '\n' ∉ l) :
    (unlines ls).splitOn '\n' = ls ++ [[]] := by
  rw [← List.append_nil (unlines ls), splitOn_unlines_append h, List.splitOn_nil]

end InlineLinkage
