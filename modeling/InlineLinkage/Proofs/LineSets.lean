import InlineLinkage.Proofs.Acceptance
import InlineLinkage.Proofs.LineText

/-!
# The error stream as a set of lines

Verification finds no more in an error stream than which lines it has. Most checks ask whether some line fits.
The word `warning` is looked for in the whole text, but it has no line end in it, so it stands in a line if it
stands anywhere. It follows that order, repetition and line ends do not matter, and that a stream with more
lines, none of which speaks of warnings, fails in nothing new.
-/
namespace InlineLinkage

namespace Text

/-- Lines written one after the other. A line ends with a line feed or with a carriage return and a line feed,
and the last one may be left without an end. -/
inductive Writes : List (List Char) → List Char → Prop where
  | nil : Writes [] []
  | unfinished {l : List Char} : l ≠ [] → '\n' ∉ l → Writes [l] l
  | feed {l s : List Char} {ls : List (List Char)} :
      '\n' ∉ l → l.getLast? ≠ some '\r' → Writes ls s → Writes (l :: ls) (l ++ '\n' :: s)
  | returnFeed {l s : List Char} {ls : List (List Char)} :
      '\n' ∉ l → Writes ls s → Writes (l :: ls) (l ++ '\r' :: '\n' :: s)

theorem lines_returnFeed {l : List Char} (hl : '\n' ∉ l) (s : List Char) :
    lines (l ++ '\r' :: '\n' :: s) = l :: lines s := by
  have hfinish : finishLine ('\r' :: l.reverse) = l := List.reverse_reverse l
  rw [lines, linesFrom_of_not_mem hl, List.append_nil, linesFrom, if_neg (by decide), linesFrom,
    if_pos rfl, hfinish]
  rfl

theorem Writes.lines_eq {ls : List (List Char)} {s : List Char} (h : Writes ls s) : lines s = ls := by
  induction h with
  | nil => rfl
  | unfinished hne hl => exact lines_of_not_mem hl hne
  | feed hl hr _ ih => rw [lines_cons hl hr, ih]
  | returnFeed hl _ ih => rw [lines_returnFeed hl, ih]

/-- Every text writes its lines. The line that is being read has no line feed. -/
theorem writes_linesFrom {line : List Char} (hline : '\n' ∉ line) (s : List Char) :
    Writes (linesFrom line s) (line.reverse ++ s) := by
  fun_induction linesFrom line s with
  | case1 => exact .nil
  | case2 line hne =>
    rw [List.append_nil]
    exact .unfinished (List.reverse_ne_nil_iff.mpr hne) (List.mem_reverse.not.mpr hline)
  | case3 line rest ih =>
    have hrest : Writes (linesFrom [] rest) rest := ih List.not_mem_nil
    unfold finishLine
    split
    · rename_i l
      rw [List.reverse_cons, List.append_assoc, List.singleton_append]
      exact .returnFeed (List.mem_reverse.not.mpr (List.not_mem_of_not_mem_cons hline)) hrest
    · rename_i hreturn
      refine .feed (List.mem_reverse.not.mpr hline) ?_ hrest
      rw [List.getLast?_reverse, ne_eq, List.head?_eq_some_iff]
      rintro ⟨l, rfl⟩
      exact hreturn l rfl
  | case4 line c rest hc ih =>
    have h := ih (List.not_mem_cons_of_ne_of_not_mem (Ne.symm hc) hline)
    rwa [List.reverse_cons, List.append_assoc, List.singleton_append] at h

theorem writes_lines (s : List Char) : Writes (lines s) s :=
  writes_linesFrom List.not_mem_nil s

theorem prefix_append_cons_iff {part s t : List Char} {c : Char} (hc : c ∉ part) :
    part <+: s ++ c :: t ↔ part <+: s := by
  constructor
  · rintro ⟨after, h⟩
    obtain ⟨u, hs, -⟩ | ⟨u, hpart, hu⟩ := List.append_eq_append_iff.mp h
    · exact ⟨u, hs.symm⟩
    · cases u with
      | nil => exact ⟨[], by simpa using hpart⟩
      | cons d u =>
        obtain rfl : c = d := (List.cons.inj hu).1
        exact absurd (hpart ▸ List.mem_append_right s List.mem_cons_self) hc
  · rintro ⟨after, rfl⟩
    exact ⟨after ++ c :: t, by rw [List.append_assoc]⟩

/-- A part without a character stands before that character or behind it. -/
theorem infix_append_cons_iff {part s t : List Char} {c : Char} (hc : c ∉ part) :
    part <:+: s ++ c :: t ↔ part <:+: s ∨ part <:+: t := by
  induction s with
  | nil =>
    have hprefix : part <+: c :: t ↔ part <+: [] := prefix_append_cons_iff (s := []) hc
    rw [List.nil_append, List.infix_cons_iff, hprefix, List.prefix_nil, List.infix_nil]
  | cons a s ih =>
    rw [List.cons_append, List.infix_cons_iff, ih, ← List.cons_append, prefix_append_cons_iff hc,
      List.infix_cons_iff, or_assoc]

/-- A part without line ends stands in a text just if it stands in one of its lines. -/
theorem Writes.infix_iff {ls : List (List Char)} {s part : List Char} (h : Writes ls s)
    (hne : part ≠ []) (hfeed : '\n' ∉ part) (hreturn : '\r' ∉ part) :
    part <:+: s ↔ ∃ l ∈ ls, part <:+: l := by
  induction h with
  | nil => simp [hne]
  | unfinished => simp
  | feed _ _ _ ih => rw [infix_append_cons_iff hfeed, ih, List.exists_mem_cons_iff]
  | @returnFeed l s ls _ _ ih =>
    have hend : part <:+: '\n' :: s ↔ part <:+: s := by
      have h := infix_append_cons_iff (s := []) (t := s) hfeed
      rwa [List.nil_append, List.infix_nil, or_iff_right hne] at h
    rw [infix_append_cons_iff hreturn, hend, ih, List.exists_mem_cons_iff]

end Text

open Text

namespace Captured

theorem mentionsWarning_iff_line {c : Captured} :
    c.mentionsWarning = true ↔ ∃ l ∈ c.errorLines, "warning".toList <:+: l := by
  have h : "warning".toList <:+: c.stderr.toList ↔ ∃ l ∈ c.errorLines, "warning".toList <:+: l :=
    (writes_lines c.stderr.toList).infix_iff (by decide) (by decide) (by decide)
  rw [← h, mentionsWarning_iff]
  exact exists₂_congr fun _ _ => eq_comm

/-- The second output has all lines of the first in its error stream, and the rest is the same. -/
structure Extends (c c' : Captured) : Prop where
  stdout : c.stdout = c'.stdout
  exitCode : c.exitCode = c'.exitCode
  timedOut : c.timedOut = c'.timedOut
  lines : ∀ l ∈ c.errorLines, l ∈ c'.errorLines

namespace Extends

variable {c c' : Captured} {f : Failure} (h : c.Extends c')
include h

theorem hasLine {pattern : String} (hline : c.hasLine pattern = true) : c'.hasLine pattern = true := by
  obtain ⟨l, hl, hfound⟩ := hasLine_iff.mp hline
  exact hasLine_iff.mpr ⟨l, h.lines l hl, hfound⟩

theorem hasError {file : String} {pattern : Option String} (herror : c.hasError file pattern = true) :
    c'.hasError file pattern = true := by
  obtain ⟨l, hl, hfits⟩ := hasError_iff.mp herror
  exact hasError_iff.mpr ⟨l, h.lines l hl, hfits⟩

theorem mentionsWarning (hmentioned : c.mentionsWarning = true) : c'.mentionsWarning = true := by
  obtain ⟨l, hl, hpart⟩ := mentionsWarning_iff_line.mp hmentioned
  exact mentionsWarning_iff_line.mpr ⟨l, h.lines l hl, hpart⟩

theorem succeeded : c.succeeded = c'.succeeded := by
  rw [Captured.succeeded, h.exitCode, Captured.succeeded]

theorem mem_compileFailures {patterns : List String} {file : String}
    (hf : f ∈ c'.compileFailures patterns file) : f ∈ c.compileFailures patterns file := by
  unfold compileFailures at hf ⊢
  rw [h.succeeded]
  split
  · rename_i hs
    rwa [if_pos hs] at hf
  · rename_i hs
    rw [if_neg hs, List.mem_filterMap] at hf
    obtain ⟨pattern, hp, hmissing⟩ := hf
    refine List.mem_filterMap.mpr ⟨pattern, hp, ?_⟩
    split at hmissing
    · cases hmissing
    · rename_i herror
      rw [if_neg fun herror' => herror (h.hasError herror'), hmissing]

theorem mem_checkFailures {k : Check} (hf : f ∈ c'.checkFailures k) : f ∈ c.checkFailures k := by
  cases k with
  | compileErrors patterns =>
    rw [checkFailures, List.mem_flatMap] at hf ⊢
    obtain ⟨file, hfile, hf⟩ := hf
    exact ⟨file, hfile, h.mem_compileFailures hf⟩
  | linkError pattern =>
    rw [checkFailures] at hf ⊢
    split at hf
    · cases hf
    · rename_i hline
      rwa [if_neg fun hline' => hline (h.hasLine hline')]
  | prints stdout =>
    rw [checkFailures] at hf ⊢
    rwa [h.succeeded, h.exitCode, h.stdout]

end Extends

end Captured

namespace Outcome

open Captured

variable {c c' : Captured}

/-- What is missed in the longer error stream is missed in the shorter one, and so is a warning that is too
much, if the added lines have none. -/
theorem mem_verify_of_extends (o : Outcome) (h : c.Extends c')
    (hquiet : ∀ l ∈ c'.errorLines, l ∉ c.errorLines → ¬ "warning".toList <:+: l) {f : Failure}
    (hf : f ∈ o.verify c') : f ∈ o.verify c := by
  simp only [verify, List.mem_append] at hf ⊢
  obtain ((htime | hcheck) | hmissing) | hwarning := hf
  · rw [h.timedOut]
    exact .inl (.inl (.inl htime))
  · exact .inl (.inl (.inr (h.mem_checkFailures hcheck)))
  · obtain ⟨w, hw, rfl⟩ := List.mem_map.mp hmissing
    obtain ⟨hrequired, hunshown⟩ := List.mem_filter.mp hw
    refine .inl (.inr (List.mem_map_of_mem (List.mem_filter.mpr ⟨hrequired, ?_⟩)))
    rw [Bool.not_eq_true', ← Bool.not_eq_true] at hunshown ⊢
    exact fun hshown => hunshown (h.hasLine hshown)
  · refine .inr ?_
    split at hwarning
    · rename_i hmentioned
      obtain ⟨hforbids, hmentions⟩ := Bool.and_eq_true_iff.mp hmentioned
      obtain ⟨l, hl, hpart⟩ := mentionsWarning_iff_line.mp hmentions
      have hold : l ∈ c.errorLines := by
        by_contra hnew
        exact hquiet l hl hnew hpart
      rw [hforbids, mentionsWarning_iff_line.mpr ⟨l, hold, hpart⟩]
      exact hwarning
    · cases hwarning

/-- Two outputs with the same lines in their error streams fail in the same things, in the same order. -/
theorem verify_congr (o : Outcome) (h : c.Extends c') (h' : c'.Extends c) :
    o.verify c = o.verify c' := by
  have hline (pattern : String) : c.hasLine pattern = c'.hasLine pattern :=
    Bool.eq_iff_iff.mpr ⟨h.hasLine, h'.hasLine⟩
  have herror (file : String) (pattern : Option String) :
      c.hasError file pattern = c'.hasError file pattern :=
    Bool.eq_iff_iff.mpr ⟨h.hasError, h'.hasError⟩
  have hcompile (patterns : List String) :
      c.compileFailures patterns = c'.compileFailures patterns := by
    funext file
    simp only [compileFailures, h.succeeded, herror]
  have hcheck (k : Check) : c.checkFailures k = c'.checkFailures k := by
    cases k with
    | compileErrors patterns => rw [checkFailures, checkFailures, hcompile]
    | linkError pattern => rw [checkFailures, checkFailures, hline]
    | prints stdout => rw [checkFailures, checkFailures, h.succeeded, h.exitCode, h.stdout]
  have hwarning : c.mentionsWarning = c'.mentionsWarning :=
    Bool.eq_iff_iff.mpr ⟨h.mentionsWarning, h'.mentionsWarning⟩
  simp only [verify, h.timedOut, hcheck, warns, hline, hwarning]

/-- Of an error stream verification reads the set of lines, whatever their order, their number and their ends,
and it finds no more failures when lines are added that do not speak of warnings. -/
theorem verify_reads_line_set (o : Outcome) (hstdout : c.stdout = c'.stdout)
    (hexit : c.exitCode = c'.exitCode) (htime : c.timedOut = c'.timedOut) :
    ((∀ l ∈ c.errorLines, l ∈ c'.errorLines) →
        (∀ l ∈ c'.errorLines, l ∉ c.errorLines → ¬ "warning".toList <:+: l) →
        ∀ f ∈ o.verify c', f ∈ o.verify c) ∧
      ((∀ l, l ∈ c.errorLines ↔ l ∈ c'.errorLines) → o.verify c = o.verify c') ∧
      ∀ ls ls', Writes ls c.stderr.toList → Writes ls' c'.stderr.toList → (∀ l, l ∈ ls ↔ l ∈ ls') →
        o.verify c = o.verify c' := by
  have hsame (hl : ∀ l, l ∈ c.errorLines ↔ l ∈ c'.errorLines) : o.verify c = o.verify c' :=
    verify_congr o ⟨hstdout, hexit, htime, fun l => (hl l).mp⟩
      ⟨hstdout.symm, hexit.symm, htime.symm, fun l => (hl l).mpr⟩
  refine ⟨fun hlines hquiet f hf => ?_, hsame, fun ls ls' hw hw' hl => ?_⟩
  · exact mem_verify_of_extends o ⟨hstdout, hexit, htime, hlines⟩ hquiet hf
  · apply hsame
    rw [errorLines, errorLines, hw.lines_eq, hw'.lines_eq]
    exact hl

/-- The same two lines in the other order and with other ends. The warning is still one too many. -/
theorem verify_reads_line_set_endings :
    let o : Outcome := ⟨.success .useInlineDefinition, .none⟩
    let c : Captured := ⟨"1\n2\n", "a: warning: b\nc\n", some 0, false⟩
    let c' : Captured := ⟨"1\n2\n", "c\r\na: warning: b", some 0, false⟩
    c.stdout = c'.stdout ∧ c.exitCode = c'.exitCode ∧ c.timedOut = c'.timedOut ∧
      o.verify c = [.unexpectedWarning] ∧ o.verify c' = [.unexpectedWarning] := by
  intro o c c'
  have hstdout : c.stdout = c'.stdout := rfl
  obtain ⟨-, -, hwritten⟩ := verify_reads_line_set o hstdout rfl rfl
  have hlines : lines c.stderr.toList = ["a: warning: b".toList, "c".toList] := by decide +kernel
  have hlines' : lines c'.stderr.toList = ["c".toList, "a: warning: b".toList] := by decide +kernel
  have hc : o.verify c = [.unexpectedWarning] := by decide +kernel
  have hsame : o.verify c = o.verify c' := by
    refine hwritten _ _ (writes_lines _) (writes_lines _) fun l => ?_
    rw [hlines, hlines', List.mem_pair, List.mem_pair, or_comm]
  exact ⟨rfl, rfl, rfl, hc, hsame ▸ hc⟩

end Outcome

end InlineLinkage
