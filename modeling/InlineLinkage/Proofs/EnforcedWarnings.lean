import InlineLinkage.BuildScript
import InlineLinkage.Proofs.Acceptance
import InlineLinkage.Proofs.LineText
import InlineLinkage.Proofs.WarningRules

/-!
# Predicted warnings are enforced

Which warnings are listed is decided with the prediction, and which of them an output must show is decided
with the expectation of its verdict. The two agree: a warning that is listed but not asked for is one about
`gnu_inline` beside a diagnostic before which no attribute is read. And no expectation asks for too much,
for every outcome accepts an output that is composed of the shortest lines its patterns describe.
-/
namespace InlineLinkage

open Text

namespace Text

/-- There is neither a line feed nor a carriage return. -/
def Unbroken (s : List Char) : Prop :=
  ∀ c ∈ s, c ≠ '\n' ∧ c ≠ '\r'

instance (s : List Char) : Decidable (Unbroken s) :=
  List.decidableBAll (fun c => c ≠ '\n' ∧ c ≠ '\r') s

theorem Unbroken.append {s t : List Char} (hs : Unbroken s) (ht : Unbroken t) : Unbroken (s ++ t) :=
  List.forall_mem_append.mpr ⟨hs, ht⟩

/-- An unbroken line is read back when it is finished. -/
theorem Unbroken.finished {s : List Char} (h : Unbroken s) :
    '\n' ∉ s ∧ s.getLast? ≠ some '\r' :=
  ⟨fun hc => (h _ hc).1 rfl, fun hr => (h _ (List.mem_of_getLast? hr)).2 rfl⟩

namespace Pattern

/-- The shortest text that a pattern describes, with a space for each character that it leaves open. -/
def sample : Pattern → List Char
  | [] => []
  | .char c :: p => c :: sample p
  | .anyChar :: p => ' ' :: sample p
  | .anyRun :: p => sample p

theorem matches_sample (p : Pattern) : Matches p (sample p) := by
  induction p with
  | nil => exact .nil
  | cons item p ih =>
    cases item with
    | char c => exact .char c ih
    | anyChar => exact .anyChar ' ' (by decide) ih
    | anyRun => exact .anyRun [] List.not_mem_nil ih

theorem foundIn_sample (p : Pattern) : FoundIn p (sample p) :=
  ⟨[], sample p, [], (List.append_nil _).symm, matches_sample p⟩

theorem mem_sample_ofChars {s : List Char} {c : Char} (h : c ∈ sample (ofChars s)) :
    c ∈ s ∨ c = ' ' := by
  fun_induction ofChars s with
  | case1 => cases h
  | case2 rest ih =>
    exact (ih h).imp_left fun hc => List.mem_cons_of_mem _ (List.mem_cons_of_mem _ hc)
  | case3 rest _ ih =>
    obtain rfl | h := List.mem_cons.mp h
    · exact .inr rfl
    · exact (ih h).imp_left (List.mem_cons_of_mem _)
  | case4 a rest _ _ ih =>
    obtain rfl | h := List.mem_cons.mp h
    · exact .inl List.mem_cons_self
    · exact (ih h).imp_left (List.mem_cons_of_mem _)

theorem unbroken_sample {pattern : String} (h : Unbroken pattern.toList) :
    Unbroken (sample (ofString pattern)) := by
  intro c hc
  obtain hc | rfl := mem_sample_ofChars hc
  · exact h c hc
  · decide

end Pattern

end Text

/-- An error line at the first place of a file, with the shortest message that a pattern describes. -/
def ErrorLine.sample (file pattern : String) : List Char :=
  file.toList ++ (":1:1: error: ".toList ++ Pattern.sample (Pattern.ofString pattern))

theorem ErrorLine.message?_sample (file pattern : String) :
    message? file (sample file pattern) = some (Pattern.sample (Pattern.ofString pattern)) := by
  have hfile : dropStart? file.toList (sample file pattern) =
      some (":1:1: error: ".toList ++ Pattern.sample (Pattern.ofString pattern)) :=
    dropStart?_eq_some_iff.mpr rfl
  rw [message?, hfile]
  rfl

theorem ErrorLine.unbroken_sample {file pattern : String} (hf : Unbroken file.toList)
    (hp : Unbroken pattern.toList) : Unbroken (sample file pattern) :=
  hf.append (.append (by decide) (Pattern.unbroken_sample hp))

namespace Check

def patterns : Check → List String
  | .compileErrors patterns => patterns
  | .linkError pattern => [Expectation.linkPattern pattern]
  | .prints _ => []

/-- The lines that a check asks for, each as short as possible. -/
def sampleLines : Check → List (List Char)
  | .compileErrors patterns =>
    Expectation.sourceFiles.flatMap fun file => ("" :: patterns).map (ErrorLine.sample file)
  | .linkError pattern => [Pattern.sample (Pattern.ofString (Expectation.linkPattern pattern))]
  | .prints _ => []

def sampleStdout : Check → String
  | .prints stdout => stdout
  | _ => ""

def sampleExit : Check → Int
  | .prints _ => 0
  | _ => 1

theorem unbroken_sampleLines {k : Check} (h : ∀ p ∈ k.patterns, Unbroken p.toList) :
    ∀ l ∈ k.sampleLines, Unbroken l := by
  cases k with
  | compileErrors patterns =>
    have hfile : ∀ file ∈ Expectation.sourceFiles, Unbroken file.toList := by decide
    have hpattern : ∀ p ∈ "" :: patterns, Unbroken p.toList :=
      List.forall_mem_cons.mpr ⟨by decide, h⟩
    intro l hl
    obtain ⟨file, hf, hl⟩ := List.mem_flatMap.mp hl
    obtain ⟨p, hp, rfl⟩ := List.mem_map.mp hl
    exact ErrorLine.unbroken_sample (hfile file hf) (hpattern p hp)
  | linkError pattern =>
    intro l hl
    obtain rfl := List.mem_singleton.mp hl
    exact Pattern.unbroken_sample (h _ List.mem_cons_self)
  | prints stdout =>
    intro l hl
    cases hl

/-- Whatever else its error stream holds, an output with these lines is what the check asks for. -/
theorem meets_sample {k : Check} {c : Captured} (hlines : ∀ l ∈ k.sampleLines, l ∈ c.errorLines)
    (hout : c.stdout = k.sampleStdout) (hexit : c.exitCode = some k.sampleExit) : c.Meets k := by
  cases k with
  | compileErrors patterns =>
    have hmem {file pattern : String} (hf : file ∈ Expectation.sourceFiles)
        (hp : pattern ∈ "" :: patterns) : ErrorLine.sample file pattern ∈ c.errorLines :=
      hlines _ (List.mem_flatMap.mpr ⟨file, hf, List.mem_map_of_mem hp⟩)
    refine ⟨by simp [hexit, sampleExit], fun file hf => ⟨?_, fun p hp => ?_⟩⟩
    · refine ⟨_, hmem hf List.mem_cons_self, _, ErrorLine.message?_sample file "", ?_⟩
      intro p hp
      cases hp
    · refine ⟨_, hmem hf (List.mem_cons_of_mem _ hp), _, ErrorLine.message?_sample file p, ?_⟩
      rintro p ⟨⟩
      exact Pattern.foundIn_sample _
  | linkError pattern => exact ⟨_, hlines _ List.mem_cons_self, Pattern.foundIn_sample _⟩
  | prints stdout => exact ⟨hexit, hout⟩

end Check

/-- No pattern reaches beyond a line. -/
theorem Expectation.unbroken_patterns :
    ∀ v, ∀ p ∈ (ofVerdict v).check.patterns, Unbroken p.toList := by
  decide

theorem Warning.unbroken_linePattern (w : Warning) : Unbroken w.linePattern.toList := by
  cases w <;> decide

namespace Outcome

/-- The lines that an outcome asks for: those of its check, then one for each warning. -/
def sampleLines (o : Outcome) : List (List Char) :=
  (Expectation.ofVerdict o.verdict).check.sampleLines ++
    o.requiredWarnings.map fun w => Pattern.sample (Pattern.ofString w.linePattern)

/-- An output that shows no more than the outcome asks for. -/
def sampleOutput (o : Outcome) : Captured where
  stdout := (Expectation.ofVerdict o.verdict).check.sampleStdout
  stderr := String.ofList (unlines o.sampleLines)
  exitCode := some (Expectation.ofVerdict o.verdict).check.sampleExit

theorem unbroken_sampleLines (o : Outcome) : ∀ l ∈ o.sampleLines, Unbroken l := by
  intro l hl
  obtain hl | hl := List.mem_append.mp hl
  · exact Check.unbroken_sampleLines (Expectation.unbroken_patterns o.verdict) l hl
  · obtain ⟨w, -, rfl⟩ := List.mem_map.mp hl
    exact Pattern.unbroken_sample w.unbroken_linePattern

theorem errorLines_sampleOutput (o : Outcome) : o.sampleOutput.errorLines = o.sampleLines := by
  rw [Captured.errorLines, sampleOutput, String.toList_ofList,
    lines_unlines fun l hl => (o.unbroken_sampleLines l hl).finished]

/-- The lines of the linker do not speak of warnings. -/
theorem silent_sampleOutput {o : Outcome} (h : o.forbidsWarnings = true) :
    ¬ o.sampleOutput.SaysWarning := by
  obtain ⟨v, ws⟩ := o
  obtain rfl : ws = .none := by
    simp only [forbidsWarnings, Warnings.isEmpty, Bool.and_eq_true, beq_iff_eq] at h
    exact h.1.1
  have hquiet : ∀ v, (⟨v, .none⟩ : Outcome).forbidsWarnings = true →
      (⟨v, .none⟩ : Outcome).sampleOutput.mentionsWarning = false := by
    decide
  rw [← Captured.mentionsWarning_iff, hquiet v h]
  exact Bool.false_ne_true

theorem accepts_sampleOutput (o : Outcome) : o.Accepts o.sampleOutput where
  inTime := rfl
  meets := by
    refine Check.meets_sample (fun l hl => ?_) rfl rfl
    rw [errorLines_sampleOutput]
    exact List.mem_append_left _ hl
  shows w hw := by
    refine ⟨_, ?_, Pattern.foundIn_sample _⟩
    rw [errorLines_sampleOutput]
    exact List.mem_append_right _ (List.mem_map_of_mem hw)
  silent := silent_sampleOutput

end Outcome

/-- The compiler gives up a declaration before it reads the attributes. -/
def Verdict.LeavesAttributesUnread (v : Verdict) : Prop :=
  v = .diagnostic .inlineNotSupported ∨ v = .diagnostic .conflictingSpecifiers

instance : DecidablePred Verdict.LeavesAttributesUnread := fun v =>
  inferInstanceAs (Decidable (v = _ ∨ v = _))

theorem Verdict.LeavesAttributesUnread.not_compiled {v : Verdict} (h : v.LeavesAttributesUnread) :
    ¬ v.Compiled := by
  obtain rfl | rfl := h
  · exact not_compiled_of_not_atLink rfl
  · exact not_compiled_of_not_atLink rfl

namespace Expectation

theorem unreachable_of_compiled {v : Verdict} (h : v.Compiled) : (ofVerdict v).unreachable = [] := by
  obtain ⟨m, rfl⟩ | rfl | rfl := h
  · cases m <;> rfl
  · rfl
  · rfl

theorem gnuInlineIgnored_mem_unreachable_iff : ∀ {v : Verdict},
    Warning.gnuInlineIgnored ∈ (ofVerdict v).unreachable ↔ v.LeavesAttributesUnread := by
  decide

theorem mem_implied_iff {v : Verdict} {w : Warning} :
    w ∈ (ofVerdict v).implied ↔
      v = .diagnostic (.staticInconsistent .neverDefined) ∧ w = .inlineNeverDefined := by
  have himplied : ∀ v, ∀ w ∈ Warning.all, w ∈ (ofVerdict v).implied ↔
      v = .diagnostic (.staticInconsistent .neverDefined) ∧ w = .inlineNeverDefined := by
    decide
  exact himplied v w w.mem_all

/-- After both files were compiled no other warning is expected than those that are listed. -/
theorem listedOnly_of_compiled {v : Verdict} (h : v.Compiled) :
    (ofVerdict v).implied = [] ∧ (ofVerdict v).toleratesOthers = false := by
  obtain ⟨m, rfl⟩ | rfl | rfl := h
  · cases m <;> exact ⟨rfl, rfl⟩
  · exact ⟨rfl, rfl⟩
  · exact ⟨rfl, rfl⟩

/-- The shortest errors do not look like a warning about `gnu_inline`. -/
theorem occurs_sampleLines_eq_false {v : Verdict} (h : v.LeavesAttributesUnread) :
    ∀ l ∈ (ofVerdict v).check.sampleLines,
      (Pattern.ofString Warning.gnuInlineIgnored.linePattern).occurs l = false := by
  obtain rfl | rfl := h
  · decide
  · decide

end Expectation

namespace Outcome

theorem mem_requiredWarnings {o : Outcome} {w : Warning} :
    w ∈ o.requiredWarnings ↔
      (o.warnings.has w = true ∧ w ∉ (Expectation.ofVerdict o.verdict).unreachable) ∨
        w ∈ (Expectation.ofVerdict o.verdict).implied := by
  simp [requiredWarnings]

theorem forbidsWarnings_of_compiled {o : Outcome} (h : o.verdict.Compiled) (hn : o.warnings = .none) :
    o.forbidsWarnings = true := by
  obtain ⟨himplied, htolerates⟩ := Expectation.listedOnly_of_compiled h
  rw [forbidsWarnings, hn, himplied, htolerates]
  rfl

theorem not_shows_sampleOutput {o : Outcome} (hv : o.verdict.LeavesAttributesUnread)
    (hrequired : o.requiredWarnings = []) :
    ¬ o.sampleOutput.Shows Warning.gnuInlineIgnored.linePattern := by
  rintro ⟨line, hline, hfound⟩
  rw [errorLines_sampleOutput, sampleLines, hrequired, List.map_nil, List.append_nil] at hline
  rw [← Pattern.occurs_iff, Expectation.occurs_sampleLines_eq_false hv line hline] at hfound
  cases hfound

end Outcome

namespace Sides

variable {s : Sides} {dialect : Dialect} {level : Level} {w : Warning}

/-- Before an error in a file nothing is warned of but `gnu_inline`. -/
theorem eq_gnuInlineIgnored_of_not_compiled
    (h : ¬ (s.outcome dialect level).verdict.Compiled)
    (hw : (s.outcome dialect level).warnings.has w = true) : w = .gnuInlineIgnored := by
  cases hd : s.compileDiagnostic? dialect with
  | none => exact absurd (compiled_iff.mpr hd) h
  | some d =>
    rw [outcome_of_diagnostic hd] at hw
    cases w with
    | gnuInlineIgnored => rfl
    | alwaysInlineIgnored => cases hw
    | inlineNeverDefined => cases hw

/-- Which warnings are listed and not asked for. -/
theorem not_required_iff (hw : (s.outcome dialect level).warnings.has w = true) :
    w ∉ (s.outcome dialect level).requiredWarnings ↔
      (s.outcome dialect level).verdict.LeavesAttributesUnread := by
  rw [← Expectation.gnuInlineIgnored_mem_unreachable_iff, Outcome.mem_requiredWarnings,
    Expectation.mem_implied_iff]
  by_cases hc : (s.outcome dialect level).verdict.Compiled
  · simp [hw, Expectation.unreachable_of_compiled hc]
  · obtain rfl := eq_gnuInlineIgnored_of_not_compiled hc hw
    simp [hw]

/-- Where no attribute is read nothing is asked for. -/
theorem requiredWarnings_eq_nil (hv : (s.outcome dialect level).verdict.LeavesAttributesUnread) :
    (s.outcome dialect level).requiredWarnings = [] := by
  rw [List.eq_nil_iff_forall_not_mem]
  intro w hw
  by_cases hlisted : (s.outcome dialect level).warnings.has w = true
  · exact (not_required_iff hlisted).mpr hv hw
  · obtain ⟨hl, -⟩ | himplied := Outcome.mem_requiredWarnings.mp hw
    · exact hlisted hl
    · rw [(Expectation.mem_implied_iff.mp himplied).1] at hv
      obtain h | h := hv
      · cases h
      · cases h

end Sides

namespace Case

/-- What is predicted of warnings is demanded of every output that is accepted, and there is such an output.
Only `gnu_inline` may go without the warning that it is ignored, where no attribute is read. -/
theorem predicted_warnings_enforced {c : Case} (hc : c.compiler = .gcc) :
    ∃ o, c.predict = .ok o ∧ (∃ captured, o.verify captured = []) ∧
      (∀ captured, o.verify captured = [] →
        (¬ o.verdict.LeavesAttributesUnread →
          ∀ w, o.warnings.has w = true → captured.Shows w.linePattern) ∧
        (o.verdict = .diagnostic (.staticInconsistent .neverDefined) →
          captured.Shows Warning.inlineNeverDefined.linePattern) ∧
        (o.warnings = .none → o.verdict.Compiled → ¬ captured.SaysWarning)) ∧
      (o.verdict.LeavesAttributesUnread → ∀ w, o.warnings.has w = true →
        w = .gnuInlineIgnored ∧
          ∃ captured, o.verify captured = [] ∧ ¬ captured.Shows w.linePattern) := by
  have haccepted : c.outcome.verify c.outcome.sampleOutput = [] :=
    Outcome.verify_eq_nil_iff.mpr c.outcome.accepts_sampleOutput
  refine ⟨c.outcome, predict_of_gcc hc, ⟨_, haccepted⟩, fun captured h => ?_, fun hv w hw => ?_⟩
  · rw [Outcome.verify_eq_nil_iff] at h
    refine ⟨fun hv w hw => ?_, fun hv => ?_, fun hn hv => ?_⟩
    · apply h.shows
      by_contra hmissing
      exact hv ((Sides.not_required_iff hw).mp hmissing)
    · exact h.shows _ (Outcome.mem_requiredWarnings.mpr
        (.inr (Expectation.mem_implied_iff.mpr ⟨hv, rfl⟩)))
    · exact h.silent (Outcome.forbidsWarnings_of_compiled hv hn)
  · obtain rfl := Sides.eq_gnuInlineIgnored_of_not_compiled hv.not_compiled hw
    exact ⟨rfl, _, haccepted,
      Outcome.not_shows_sampleOutput hv (Sides.requiredWarnings_eq_nil hv)⟩

/-- A `gnu_inline` that is ignored, in C after an error of the other kind and in C++ unread. -/
theorem predicted_warnings_enforced_conflict :
    let d : Declarations := .definitionOnly [.staticStorage, .externStorage, .gnuInline]
    let c : Case := ⟨d, .gcc, .gnu11, .o0⟩
    let c' : Case := ⟨d, .gcc, .gnuCxx11, .o0⟩
    (c.compiler = .gcc ∧ ∃ o, c.predict = .ok o ∧
        ∀ captured, o.verify captured = [] →
          captured.Shows Warning.gnuInlineIgnored.linePattern) ∧
      (c'.compiler = .gcc ∧ ∃ o, c'.predict = .ok o ∧
        ∃ captured, o.verify captured = [] ∧
          ¬ captured.Shows Warning.gnuInlineIgnored.linePattern) := by
  intro d c c'
  obtain ⟨o, ho, -, henforced, -⟩ := predicted_warnings_enforced (c := c) rfl
  obtain ⟨o', ho', -, -, hdropped⟩ := predicted_warnings_enforced (c := c') rfl
  obtain rfl : ⟨.diagnostic .multipleStorageClasses, { gnuInlineIgnored := true }⟩ = o :=
    Except.ok.inj ho
  obtain rfl : ⟨.diagnostic .conflictingSpecifiers, { gnuInlineIgnored := true }⟩ = o' :=
    Except.ok.inj ho'
  have hread : ¬ (Verdict.diagnostic .multipleStorageClasses).LeavesAttributesUnread := by
    rintro (h | h)
    · cases h
    · cases h
  exact ⟨⟨rfl, _, ho, fun captured h => (henforced captured h).1 hread .gnuInlineIgnored rfl⟩,
    rfl, _, ho', (hdropped (.inr rfl) .gnuInlineIgnored rfl).2⟩

end Case

end InlineLinkage
