import InlineLinkage.Report
import Mathlib.Tactic

/-!
# Texts on one line

What is printed for a number, a case, an outcome or a failure stays on its line. The columns hold fixed
words and letters, and a failure shows a text of the program only between quotes, where a line feed is
spelled.
-/
namespace InlineLinkage

namespace Text

theorem newline_not_mem_toDigits {b : ℕ} (hb : 1 < b) (n : ℕ) : '\n' ∉ Nat.toDigits b n := by
  induction n using Nat.strong_induction_on with
  | h n ih =>
    have hdigit (d : ℕ) : '\n' ∉ [d.digitChar] := fun h =>
      Nat.digitChar_ne '\n' rfl (List.mem_singleton.mp h).symm
    by_cases hn : n < b
    · rw [Nat.toDigits_of_lt_base hn]
      exact hdigit n
    · have hlt : n / b < n := Nat.div_lt_self (by omega) hb
      rw [Nat.toDigits_of_base_le hb (not_lt.mp hn)]
      exact List.not_mem_append (ih _ hlt) (hdigit _)

theorem newline_not_mem_natChars (n : ℕ) : '\n' ∉ natChars n :=
  newline_not_mem_toDigits (by decide) n

theorem newline_not_mem_intChars (n : ℤ) : '\n' ∉ intChars n := by
  cases n with
  | ofNat n => exact newline_not_mem_natChars n
  | negSucc n => exact List.not_mem_cons_of_ne_of_not_mem (by decide) (newline_not_mem_natChars _)

theorem newline_not_mem_padRight {s : List Char} (hs : '\n' ∉ s) (width : ℕ) :
    '\n' ∉ padRight width s := by
  refine List.not_mem_append hs fun h => ?_
  have := List.eq_of_mem_replicate h
  contradiction

theorem newline_not_mem_padLeft {s : List Char} (hs : '\n' ∉ s) (width : ℕ) :
    '\n' ∉ padLeft width s := by
  refine List.not_mem_append (fun h => ?_) hs
  have := List.eq_of_mem_replicate h
  contradiction

theorem newline_not_mem_quoteChar (c : Char) : '\n' ∉ quoteChar c := by
  have hnumber : '\n' ∉ ['\\', 'u', '{'] ++ hexDigits c.toNat ++ ['}'] := by
    simp only [List.mem_append, not_or]
    exact ⟨⟨by decide, newline_not_mem_toDigits (by decide) _⟩, by decide⟩
  unfold quoteChar
  split_ifs with _ _ hc
  any_goals decide
  · exact hnumber
  · exact fun h => hc (List.mem_singleton.mp h).symm

/-- A quoted text has no line feed of its own. -/
theorem newline_not_mem_quoteChars (s : List Char) : '\n' ∉ quoteChars s := by
  have hbody : '\n' ∉ s.flatMap quoteChar := fun h => by
    obtain ⟨c, -, hc⟩ := List.mem_flatMap.mp h
    exact newline_not_mem_quoteChar c hc
  exact List.not_mem_append (List.not_mem_cons_of_ne_of_not_mem (by decide) hbody) (by decide)

theorem newline_not_mem_finishLine {reversed : List Char} (h : '\n' ∉ reversed) :
    '\n' ∉ finishLine reversed := by
  unfold finishLine
  split
  · exact List.mem_reverse.not.mpr (List.not_mem_of_not_mem_cons h)
  · exact List.mem_reverse.not.mpr h

theorem newline_not_mem_of_mem_linesFrom {line s l : List Char} (hline : '\n' ∉ line)
    (hl : l ∈ linesFrom line s) : '\n' ∉ l := by
  fun_induction linesFrom line s with
  | case1 => cases hl
  | case2 line hne =>
    obtain rfl := List.mem_singleton.mp hl
    exact List.mem_reverse.not.mpr hline
  | case3 line rest ih =>
    obtain rfl | hl := List.mem_cons.mp hl
    · exact newline_not_mem_finishLine hline
    · exact ih List.not_mem_nil hl
  | case4 line c rest hc ih => exact ih (List.not_mem_cons_of_ne_of_not_mem (Ne.symm hc) hline) hl

theorem newline_not_mem_of_mem_lines {s l : List Char} (hl : l ∈ lines s) : '\n' ∉ l :=
  newline_not_mem_of_mem_linesFrom List.not_mem_nil hl

end Text

open Text

theorem Qualifiers.newline_not_mem_summary (qs : Qualifiers) : '\n' ∉ qs.summary := by
  intro h
  obtain ⟨q, -, hq⟩ := List.mem_map.mp h
  cases q <;> contradiction

theorem Declarations.newline_not_mem_summary (d : Declarations) : '\n' ∉ d.summary := by
  refine List.not_mem_append ?_
    (List.not_mem_cons_of_ne_of_not_mem (by decide) d.definition.newline_not_mem_summary)
  split
  · exact Qualifiers.newline_not_mem_summary _
  · decide

theorem Case.newline_not_mem_chars (c : Case) : '\n' ∉ c.chars := by
  have hcompiler : '\n' ∉ c.compiler.name.toList := by cases c.compiler <;> decide
  have hdialect : '\n' ∉ c.dialect.spelling.toList := by cases c.dialect <;> decide
  have hlevel : '\n' ∉ c.level.flag.toList := by cases c.level <;> decide
  have hspace : '\n' ≠ ' ' := by decide
  simp only [chars, List.mem_append, List.mem_cons, not_or]
  exact ⟨⟨⟨newline_not_mem_padRight c.declarations.newline_not_mem_summary 12, hspace,
    newline_not_mem_padRight hcompiler 5⟩, hspace, newline_not_mem_padRight hdialect 7⟩, hspace,
    newline_not_mem_padRight hlevel 3⟩

theorem Verdict.newline_not_mem_chars : ∀ v : Verdict, '\n' ∉ v.chars := by
  decide

theorem Outcome.newline_not_mem_chars (o : Outcome) : '\n' ∉ o.chars := by
  refine List.not_mem_append (Verdict.newline_not_mem_chars _) fun h => ?_
  obtain ⟨w, -, hw⟩ := List.mem_flatMap.mp h
  cases w <;> exact absurd hw (by decide)

theorem CaseRun.newline_not_mem_exitChars (captured : Captured) : '\n' ∉ exitChars captured := by
  refine List.not_mem_append ?_ ?_
  · cases captured.exitCode with
    | none => decide
    | some code => exact newline_not_mem_intChars code
  · cases captured.timedOut <;> decide

namespace Failure

/-- The source file that a failure names. -/
def file? : Failure → Option String
  | .buildSucceeded file => some file
  | .noCompileError file _ => some file
  | _ => none

theorem newline_not_mem_exitChars (code : Option ℤ) : '\n' ∉ exitChars code := by
  cases code with
  | none => decide
  | some code => exact newline_not_mem_intChars code

/-- A failure takes one line when the name of its file does. What else it shows is quoted. -/
theorem newline_not_mem_chars {f : Failure} (h : ∀ file, f.file? = some file → '\n' ∉ file.toList) :
    '\n' ∉ f.chars := by
  unfold chars
  cases f with
  | timedOut => decide
  | buildSucceeded file =>
    simp only [List.mem_append, not_or]
    exact ⟨⟨by decide, h file rfl⟩, by decide⟩
  | noCompileError file pattern =>
    cases pattern with
    | none =>
      simp only [List.mem_append, not_or]
      exact ⟨⟨by decide, h file rfl⟩, by decide⟩
    | some pattern =>
      simp only [List.mem_append, not_or]
      exact ⟨⟨⟨⟨by decide, h file rfl⟩, by decide⟩, newline_not_mem_quoteChars _⟩, by decide⟩
  | noLinkError pattern =>
    simp only [List.mem_append, not_or]
    exact ⟨by decide, newline_not_mem_quoteChars _⟩
  | wrongExit code =>
    simp only [List.mem_append, not_or]
    exact ⟨by decide, newline_not_mem_exitChars code⟩
  | wrongOutput expected got =>
    simp only [List.mem_append, not_or]
    exact ⟨⟨⟨by decide, newline_not_mem_quoteChars _⟩, by decide⟩, newline_not_mem_quoteChars _⟩
  | missingWarning w =>
    have hname : '\n' ∉ w.name.toList := by cases w <;> decide
    simp only [List.mem_append, not_or]
    exact ⟨⟨⟨⟨by decide, hname⟩, by decide⟩, newline_not_mem_quoteChars _⟩, by decide⟩
  | unexpectedWarning => decide

end Failure

namespace Captured

theorem file?_of_mem_compileFailures {c : Captured} {patterns : List String} {file : String}
    {f : Failure} (hf : f ∈ c.compileFailures patterns file) : f.file? = some file := by
  unfold compileFailures at hf
  split at hf
  · obtain rfl := List.mem_singleton.mp hf
    rfl
  · obtain ⟨pattern, -, hp⟩ := List.mem_filterMap.mp hf
    split at hp
    · cases hp
    · cases hp
      rfl

theorem file?_of_mem_checkFailures {c : Captured} {k : Check} {f : Failure}
    (hf : f ∈ c.checkFailures k) {file : String} (h : f.file? = some file) :
    file ∈ Expectation.sourceFiles := by
  cases k with
  | compileErrors patterns =>
    obtain ⟨file', hfile, hf⟩ := List.mem_flatMap.mp hf
    rw [file?_of_mem_compileFailures hf] at h
    exact Option.some.inj h ▸ hfile
  | linkError pattern =>
    obtain rfl := List.mem_singleton.mp (List.mem_ite_nil_left.mp hf).2
    cases h
  | prints stdout =>
    obtain hf | hf := List.mem_append.mp hf
    · obtain rfl := List.mem_singleton.mp (List.mem_ite_nil_left.mp hf).2
      cases h
    · obtain rfl := List.mem_singleton.mp (List.mem_ite_nil_left.mp hf).2
      cases h

end Captured

namespace Outcome

/-- Of files a verification names the two sources only. -/
theorem file?_of_mem_verify {o : Outcome} {c : Captured} {f : Failure} (hf : f ∈ o.verify c)
    {file : String} (h : f.file? = some file) : file ∈ Expectation.sourceFiles := by
  obtain hf | hf := List.mem_append.mp hf
  · obtain hf | hf := List.mem_append.mp hf
    · obtain hf | hf := List.mem_append.mp hf
      · obtain rfl := List.mem_singleton.mp (List.mem_ite_nil_right.mp hf).2
        cases h
      · exact Captured.file?_of_mem_checkFailures hf h
    · obtain ⟨w, -, rfl⟩ := List.mem_map.mp hf
      cases h
  · obtain rfl := List.mem_singleton.mp (List.mem_ite_nil_right.mp hf).2
    cases h

/-- What a verification reports of an output takes one line for each failure, whatever the output is. -/
theorem newline_not_mem_of_mem_verify {o : Outcome} {c : Captured} {f : Failure}
    (hf : f ∈ o.verify c) : '\n' ∉ f.chars := by
  have hfiles : ∀ file ∈ Expectation.sourceFiles, '\n' ∉ file.toList := by decide
  exact Failure.newline_not_mem_chars fun file h => hfiles file (file?_of_mem_verify hf h)

end Outcome

end InlineLinkage
