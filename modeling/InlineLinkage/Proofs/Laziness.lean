import InlineLinkage.Proofs.WordSets

/-!
# Lazy and eager compilations

The optimization level and the words for forced inlining come into a verdict as one bit: whether the
calls are left to the linker. A compilation that leaves them there finds out what the object files lack
or share; one that does not is fine in just these cases, and otherwise the verdicts are the same.
-/
namespace InlineLinkage

namespace Sides

section TwoCompilations

variable {s t : Sides} (h : s.LinkEquiv t) (dialect : Dialect) {level level' : Level}
include h

theorem verdict_eq_of_lazy_eq (hl : s.lazy level = t.lazy level') :
    (s.outcome dialect level).verdict = (t.outcome dialect level').verdict := by
  cases hs : s.compileDiagnostic? dialect with
  | some d =>
    have ht := h.compileDiagnostic? dialect ▸ hs
    rw [outcome_of_diagnostic hs, outcome_of_diagnostic ht]
  | none =>
    have ht := h.compileDiagnostic? dialect ▸ hs
    rw [outcome_of_compiled hs, outcome_of_compiled ht, h.rules.emission, hl]

theorem verdict_eq_eager (hs : s.lazy level = true) (ht : t.lazy level' = false) :
    (t.outcome dialect level').verdict = (s.outcome dialect level).verdict.eager := by
  cases hd : s.compileDiagnostic? dialect with
  | some d =>
    have hd' := h.compileDiagnostic? dialect ▸ hd
    rw [outcome_of_diagnostic hd, outcome_of_diagnostic hd']
    exact (Verdict.eager_of_not_atLink (isAtLink_eq_false hd)).symm
  | none =>
    have hd' := h.compileDiagnostic? dialect ▸ hd
    rw [outcome_of_compiled hd, outcome_of_compiled hd', h.rules.emission, hs, ht]
    exact (Emission.eager_verdict _).symm

end TwoCompilations

/-- With all calls inlined no body is missing, and the linker has nothing to choose from. -/
theorem verdict_of_not_lazy {s : Sides} {level : Level} (h : s.lazy level = false)
    (dialect : Dialect) :
    (s.outcome dialect level).verdict ≠ .diagnostic .undefinedReference ∧
      (s.outcome dialect level).verdict ≠ .success .linkOnceEither := by
  cases hd : s.compileDiagnostic? dialect with
  | some d =>
    have hlink := isAtLink_eq_false hd
    rw [outcome_of_diagnostic hd]
    constructor
    · rintro ⟨⟩
      cases hlink
    · rintro ⟨⟩
  | none =>
    rw [outcome_of_compiled hd, h]
    exact Emission.verdict_false_ne _

theorem warnings_eq (s : Sides) (dialect : Dialect) (level level' : Level) :
    (s.outcome dialect level).warnings = (s.outcome dialect level').warnings := by
  cases hd : s.compileDiagnostic? dialect with
  | some d => rw [outcome_of_diagnostic hd, outcome_of_diagnostic hd]
  | none => rw [outcome_of_compiled hd, outcome_of_compiled hd]

end Sides

namespace Case

/-- Nothing is optimized and no declaration forces inlining. -/
def Lazy (c : Case) : Prop :=
  c.level = .o0 ∧ Qualifier.alwaysInline ∉ c.declarations.first ∧
    Qualifier.alwaysInline ∉ c.declarations.definition

instance (c : Case) : Decidable c.Lazy :=
  inferInstanceAs (Decidable (_ ∧ _ ∧ _))

theorem lazy_sides (c : Case) : c.sides.lazy c.level = decide c.Lazy := by
  rw [Bool.eq_iff_iff, decide_eq_true_eq]
  simp only [Sides.lazy, Sides.alwaysInline, Level.isUnoptimized, Lazy, sides,
    Qualifiers.hasAlwaysInline, Bool.and_eq_true, beq_iff_eq, Bool.not_eq_true', ← Bool.not_eq_true,
    Bool.or_eq_true, Qualifiers.has_iff, not_or]

/-- Two cases whose declarations differ at most in where inlining is forced. Their verdicts are the
same, or they differ by one being lazy; the warnings never depend on the level. -/
theorem verdict_depends_on_laziness {c c' : Case} (hc : c.compiler = .gcc)
    (hc' : c'.compiler = .gcc) (hdialect : c.dialect = c'.dialect)
    (hfirst : Qualifiers.SameWordsBut .alwaysInline c.declarations.first c'.declarations.first)
    (hdefinition : Qualifiers.SameWordsBut .alwaysInline c.declarations.definition
      c'.declarations.definition) :
    ∃ v v', c.predictedVerdict = .ok v ∧ c'.predictedVerdict = .ok v' ∧
      ((c.Lazy ↔ c'.Lazy) → v' = v) ∧
      (c.Lazy → ¬ c'.Lazy →
        v' = if v = .diagnostic .undefinedReference ∨ v = .success .linkOnceEither then
          .success .useInlineDefinition else v) ∧
      (¬ c.Lazy → v ≠ .diagnostic .undefinedReference ∧ v ≠ .success .linkOnceEither) ∧
      ∃ warnings, ∀ level, ({ c with level } : Case).predict.map Outcome.warnings = .ok warnings := by
  have h : c.sides.LinkEquiv c'.sides := ⟨hfirst.linkEquiv, hdefinition.linkEquiv⟩
  refine ⟨c.outcome.verdict, c'.outcome.verdict, predictedVerdict_of_gcc hc,
    predictedVerdict_of_gcc hc', ?_, ?_, ?_, c.outcome.warnings, ?_⟩
  · intro hl
    rw [outcome, outcome, ← hdialect]
    refine (Sides.verdict_eq_of_lazy_eq h c.dialect ?_).symm
    rw [lazy_sides, lazy_sides, decide_eq_decide]
    exact hl
  · intro hl hl'
    rw [← Verdict.eager_eq_ite, outcome, outcome, ← hdialect]
    apply Sides.verdict_eq_eager h c.dialect
    · rw [lazy_sides, decide_eq_true hl]
    · rw [lazy_sides, decide_eq_false hl']
  · intro hl
    apply Sides.verdict_of_not_lazy
    rw [lazy_sides, decide_eq_false hl]
  · intro level
    have hp := predict_of_gcc (c := { c with level }) hc
    rw [hp]
    exact congrArg _ (c.sides.warnings_eq c.dialect level c.level)

/-- An inline definition that is missed without optimization, and its inlining forced. -/
theorem verdict_depends_on_laziness_inline :
    let c : Case := ⟨.symmetric [.inlineKeyword], .gcc, .gnu99, .o0⟩
    let c' : Case := ⟨⟨some [.inlineKeyword], [.alwaysInline, .inlineKeyword]⟩, .gcc, .gnu99, .o0⟩
    c.Lazy ∧ ¬ c'.Lazy ∧ c.predictedVerdict = .ok (.diagnostic .undefinedReference) ∧
      c'.predictedVerdict = .ok (.success .useInlineDefinition) := by
  intro c c'
  have hl : c.Lazy := by decide
  have hl' : ¬ c'.Lazy := by decide
  have hv : c.predictedVerdict = .ok (.diagnostic .undefinedReference) := by rfl
  have hdialect : c.dialect = c'.dialect := rfl
  obtain ⟨v, v', hcv, hcv', -, heager, -⟩ :=
    verdict_depends_on_laziness rfl rfl hdialect (by decide) (by decide)
  obtain rfl : Verdict.diagnostic .undefinedReference = v := Except.ok.inj (hv.symm.trans hcv)
  exact ⟨hl, hl', hv, hcv'.trans (congrArg _ (heager hl hl'))⟩

end Case

end InlineLinkage
