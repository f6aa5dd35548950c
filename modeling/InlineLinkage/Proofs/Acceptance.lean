import InlineLinkage.Verification
import Mathlib.Tactic

/-!
# Accepted output

An output is accepted when verification finds no failure. What that asks of an output is said here once,
by the lines of its error stream, its end and what it printed. Two outcomes that contradict each other
should not accept the same output. They do not if one of them is a compile-time diagnostic, for then one
wants the build to succeed and the other wants it to fail. A diagnostic of the linker is looked for in
the error stream alone.
-/
namespace InlineLinkage

open Text

namespace Captured

/-- Some line of the error stream holds what a pattern describes. -/
def Shows (c : Captured) (pattern : String) : Prop :=
  ∃ line ∈ c.errorLines, (Pattern.ofString pattern).FoundIn line

/-- An error line of a file has a message that fits. Without a pattern any message does. -/
def ShowsError (c : Captured) (file : String) (pattern : Option String) : Prop :=
  ∃ line ∈ c.errorLines, ∃ message, ErrorLine.message? file line = some message ∧
    ∀ p ∈ pattern, (Pattern.ofString p).FoundIn message

/-- The word `warning` stands somewhere in the error stream. -/
def SaysWarning (c : Captured) : Prop :=
  ∃ before after, c.stderr.toList = before ++ "warning".toList ++ after

/-- The output is what a check asks for. -/
def Meets (c : Captured) : Check → Prop
  | .compileErrors patterns =>
    c.exitCode ≠ some 0 ∧ ∀ file ∈ Expectation.sourceFiles,
      c.ShowsError file none ∧ ∀ p ∈ patterns, c.ShowsError file (some p)
  | .linkError pattern => c.Shows (Expectation.linkPattern pattern)
  | .prints stdout => c.exitCode = some 0 ∧ c.stdout = stdout

variable {c : Captured}

theorem hasLine_iff {pattern : String} : c.hasLine pattern = true ↔ c.Shows pattern := by
  simp only [hasLine, Shows, List.any_eq_true, Pattern.occurs_iff]

theorem hasError_iff {file : String} {pattern : Option String} :
    c.hasError file pattern = true ↔ c.ShowsError file pattern := by
  simp only [hasError, ShowsError, List.any_eq_true]
  refine exists_congr fun line => and_congr_right fun _ => ?_
  cases ErrorLine.message? file line with
  | none => simp
  | some message => simp [Option.all_eq_true, Pattern.occurs_iff]

theorem warns_iff {w : Warning} : c.warns w = true ↔ c.Shows w.linePattern :=
  hasLine_iff

theorem mentionsWarning_iff : c.mentionsWarning = true ↔ c.SaysWarning :=
  occursIn_iff

theorem succeeded_iff : c.succeeded = true ↔ c.exitCode = some 0 :=
  beq_iff_eq

theorem compileFailures_eq_nil_iff {patterns : List String} {file : String} :
    c.compileFailures patterns file = [] ↔
      c.exitCode ≠ some 0 ∧ c.ShowsError file none ∧ ∀ p ∈ patterns, c.ShowsError file (some p) := by
  rw [compileFailures]
  by_cases hs : c.succeeded = true
  · simp [hs, succeeded_iff.mp hs]
  · have hexit : c.exitCode ≠ some 0 := succeeded_iff.not.mp hs
    rw [if_neg hs, List.filterMap_eq_nil_iff]
    simp [hexit, hasError_iff]

theorem checkFailures_eq_nil_iff {k : Check} : c.checkFailures k = [] ↔ c.Meets k := by
  cases k with
  | compileErrors patterns =>
    simp only [checkFailures, Meets, List.flatMap_eq_nil_iff, compileFailures_eq_nil_iff]
    -- The end of the script is looked at with each file, and there are files.
    constructor
    · intro h
      exact ⟨(h "file1" List.mem_cons_self).1, fun file hf => (h file hf).2⟩
    · rintro ⟨hexit, h⟩ file hf
      exact ⟨hexit, h file hf⟩
  | linkError pattern =>
    simp only [checkFailures, Meets, ← hasLine_iff]
    split <;> simp_all
  | prints stdout =>
    simp only [checkFailures, Meets, List.append_eq_nil_iff, ← succeeded_iff]
    constructor
    · rintro ⟨hs, ho⟩
      exact ⟨by simpa using hs, by simpa using ho⟩
    · rintro ⟨hs, ho⟩
      rw [if_pos hs, if_pos ho]
      exact ⟨rfl, rfl⟩

end Captured

namespace Outcome

/-- What an outcome demands of an output. -/
structure Accepts (o : Outcome) (c : Captured) : Prop where
  inTime : c.timedOut = false
  meets : c.Meets (Expectation.ofVerdict o.verdict).check
  shows : ∀ w ∈ o.requiredWarnings, c.Shows w.linePattern
  silent : o.forbidsWarnings = true → ¬ c.SaysWarning

/-- Verification is silent just if the demands are met. -/
theorem verify_eq_nil_iff {o : Outcome} {c : Captured} : o.verify c = [] ↔ o.Accepts c := by
  have htime : (if c.timedOut then [Failure.timedOut] else []) = [] ↔ c.timedOut = false := by
    cases c.timedOut <;> simp
  have hwarn : (o.requiredWarnings.filter fun w => !c.warns w).map Failure.missingWarning = [] ↔
      ∀ w ∈ o.requiredWarnings, c.Shows w.linePattern := by
    simp only [List.map_eq_nil_iff, List.filter_eq_nil_iff, Bool.not_eq_true', Bool.not_eq_false,
      Captured.warns_iff]
  have hsilent : (if o.forbidsWarnings && c.mentionsWarning then [Failure.unexpectedWarning]
      else []) = [] ↔ (o.forbidsWarnings = true → ¬ c.SaysWarning) := by
    rw [← Captured.mentionsWarning_iff]
    cases o.forbidsWarnings <;> cases c.mentionsWarning <;> simp
  simp only [verify, List.append_eq_nil_iff, htime, hwarn, hsilent,
    Captured.checkFailures_eq_nil_iff]
  constructor
  · rintro ⟨⟨⟨h1, h2⟩, h3⟩, h4⟩
    exact ⟨h1, h2, h3, h4⟩
  · rintro ⟨h1, h2, h3, h4⟩
    exact ⟨⟨⟨h1, h2⟩, h3⟩, h4⟩

end Outcome

/-- The words of the linker, for a diagnostic that it finds. -/
def Diagnostic.linkerWords? : Diagnostic → Option String
  | .multipleDefinition => some "multiple definition"
  | .undefinedReference => some "undefined reference"
  | _ => none

namespace Expectation

theorem ofVerdict_success (m : SuccessMode) :
    ∃ stdout, ofVerdict (.success m) = { check := .prints stdout } := by
  cases m with
  | useInlineDefinition => exact ⟨_, rfl⟩
  | linkOnceEither => exact ⟨_, rfl⟩

theorem ofDiagnostic_of_linkerWords {d : Diagnostic} {words : String}
    (h : d.linkerWords? = some words) : ofDiagnostic d = { check := .linkError words } := by
  cases d <;> cases h <;> rfl

theorem check_ofDiagnostic_of_compile {d : Diagnostic} (h : d.linkerWords? = none) :
    ∃ patterns, (ofDiagnostic d).check = .compileErrors patterns := by
  cases d with
  | multipleDefinition => cases h
  | undefinedReference => cases h
  | staticInconsistent style => cases style <;> exact ⟨_, rfl⟩
  | gnuInlineInconsistent style => cases style <;> exact ⟨_, rfl⟩
  | _ => exact ⟨_, rfl⟩

end Expectation

namespace Outcome

variable {o : Outcome} {c : Captured}

/-- A working program ends without an error. -/
theorem Accepts.exitCode_of_success {m : SuccessMode} (h : o.Accepts c)
    (ho : o.verdict = .success m) : c.exitCode = some 0 := by
  obtain ⟨stdout, he⟩ := Expectation.ofVerdict_success m
  have hm := h.meets
  rw [ho, he] at hm
  exact hm.1

/-- A build that was stopped by the compiler does not. -/
theorem Accepts.exitCode_of_compile {d : Diagnostic} (h : o.Accepts c)
    (ho : o.verdict = .diagnostic d) (hd : d.linkerWords? = none) : c.exitCode ≠ some 0 := by
  obtain ⟨patterns, he⟩ := Expectation.check_ofDiagnostic_of_compile hd
  have hm := h.meets
  rw [ho, Expectation.ofVerdict, he] at hm
  exact hm.1

/-- All that a diagnostic of the linker demands is a line of the linker and the listed warnings. The end of
the script is not looked at. -/
theorem accepts_of_linkerWords {d : Diagnostic} {words : String} (ho : o.verdict = .diagnostic d)
    (hd : d.linkerWords? = some words) :
    o.Accepts c ↔ c.timedOut = false ∧ c.Shows (Expectation.linkPattern words) ∧
      (∀ w, o.warnings.has w = true → c.Shows w.linePattern) ∧
      (o.warnings = .none → ¬ c.SaysWarning) := by
  have he : Expectation.ofVerdict o.verdict = { check := .linkError words } := by
    rw [ho, Expectation.ofVerdict, Expectation.ofDiagnostic_of_linkerWords hd]
  have hrequired (w : Warning) : w ∈ o.requiredWarnings ↔ o.warnings.has w = true := by
    simp [requiredWarnings, he]
  have hforbids : o.forbidsWarnings = true ↔ o.warnings = .none := by
    simp [forbidsWarnings, he, Warnings.isEmpty]
  constructor
  · intro h
    have hm := h.meets
    rw [he] at hm
    exact ⟨h.inTime, hm, fun w hw => h.shows w ((hrequired w).mpr hw),
      fun hn => h.silent (hforbids.mpr hn)⟩
  · rintro ⟨htime, hline, hshows, hsilent⟩
    refine ⟨htime, ?_, fun w hw => hshows w ((hrequired w).mp hw),
      fun hf => hsilent (hforbids.mp hf)⟩
    rw [he]
    exact hline

/-- An output that is accepted as that of a working program is accepted as that of a failed build just if
the linker is said to find the fault and a line of the error stream says so, with the warnings that are
expected beside it. -/
theorem accepted_as_both_iff (m : SuccessMode) (d : Diagnostic) (ws ws' : Warnings) (c : Captured) :
    ((⟨.success m, ws⟩ : Outcome).verify c = [] ∧ (⟨.diagnostic d, ws'⟩ : Outcome).verify c = []) ↔
      (⟨.success m, ws⟩ : Outcome).verify c = [] ∧
        ∃ words, d.linkerWords? = some words ∧ c.Shows (Expectation.linkPattern words) ∧
          (∀ w, ws'.has w = true → c.Shows w.linePattern) ∧ (ws' = .none → ¬ c.SaysWarning) := by
  rw [verify_eq_nil_iff, verify_eq_nil_iff]
  refine and_congr_right fun hsuccess => ?_
  cases hd : d.linkerWords? with
  | none =>
    constructor
    · intro h
      exact absurd (hsuccess.exitCode_of_success rfl) (h.exitCode_of_compile rfl hd)
    · rintro ⟨words, hw, -⟩
      cases hw
  | some words =>
    rw [accepts_of_linkerWords rfl hd]
    constructor
    · rintro ⟨-, hline, hshows, hsilent⟩
      exact ⟨words, rfl, hline, hshows, hsilent⟩
    · rintro ⟨words', hw, hline, hshows, hsilent⟩
      cases hw
      exact ⟨hsuccess.inTime, hline, hshows, hsilent⟩

/-- A program that runs although the linker has complained is taken for both. -/
theorem accepted_as_both_linker_line :
    let c : Captured :=
      ⟨"1\n2\n", "file2.c:(.text+0x0): multiple definition of foo\n", some 0, false⟩
    (⟨.success .useInlineDefinition, .none⟩ : Outcome).verify c = [] ∧
      (⟨.diagnostic .multipleDefinition, .none⟩ : Outcome).verify c = [] := by
  decide

end Outcome

end InlineLinkage
