import InlineLinkage.Proofs.WarningRules

/-!
# The linkage of C99 in closed form

For declarations without `static` the rules from C99 on ask overlapping questions one after the other. The
answer is one condition on words: a file offers no body to others if both declarations are inline and
nothing more, or if the definition is `extern inline` with `gnu_inline` and no inline declaration before it
lacks the `extern`. Two bodies clash, and without any the calls must be inlined.
-/
namespace InlineLinkage

namespace Qualifiers

/-- The compiler emits no body that other files can reach for a function that is first declared with one row
of words and defined with the other. -/
def NoExternalCopy (first definition : Qualifiers) : Prop :=
  (first.Inline ∧ definition.Inline ∧
      (Qualifier.externStorage ∉ first ∧ Qualifier.gnuInline ∉ first) ∧
      Qualifier.externStorage ∉ definition ∧ Qualifier.gnuInline ∉ definition) ∨
    (Qualifier.externStorage ∈ definition ∧ definition.Inline ∧ Qualifier.gnuInline ∈ definition ∧
      (¬ first.Inline ∨ Qualifier.externStorage ∈ first))

instance (first definition : Qualifiers) : Decidable (first.NoExternalCopy definition) :=
  inferInstanceAs (Decidable (_ ∨ _))

/-- Both declarations are inline, and exactly one has `gnu_inline`. -/
def HalfGnuInline (first definition : Qualifiers) : Prop :=
  first.Inline ∧ definition.Inline ∧
    (Qualifier.gnuInline ∈ first ↔ Qualifier.gnuInline ∉ definition)

instance (first definition : Qualifiers) : Decidable (first.HalfGnuInline definition) :=
  inferInstanceAs (Decidable (_ ∧ _ ∧ _))

/-- The calls are left to the linker: nothing is optimized and no inlining is forced. -/
def LeavesCalls (first definition : Qualifiers) (level : Level) : Prop :=
  level = .o0 ∧ Qualifier.alwaysInline ∉ first ∧ Qualifier.alwaysInline ∉ definition

instance (first definition : Qualifiers) (level : Level) :
    Decidable (first.LeavesCalls definition level) :=
  inferInstanceAs (Decidable (_ ∧ _ ∧ _))

end Qualifiers

namespace Sides

variable {s : Sides} {dialect : Dialect} {level : Level}

theorem gnuInlineDrift_iff : s.gnuInlineDrift = true ↔ s.first.HalfGnuInline s.definition := by
  have hexternal : (s.first.hasGnuInline != s.definition.hasGnuInline) = true ↔
      (Qualifier.gnuInline ∈ s.first ↔ Qualifier.gnuInline ∉ s.definition) := by
    rw [bne_iff_ne, ne_eq, Bool.eq_iff_iff]
    simp only [Qualifiers.hasGnuInline, Qualifiers.has_iff]
    tauto
  rw [gnuInlineDrift, inlineEverywhere, Bool.and_eq_true, Bool.and_eq_true, hexternal,
    Qualifiers.hasAnyInline_iff, Qualifiers.hasAnyInline_iff, Qualifiers.HalfGnuInline, and_assoc]

theorem lazy_iff : s.lazy level = true ↔ s.first.LeavesCalls s.definition level := by
  simp only [lazy, Level.isUnoptimized, alwaysInline, Qualifiers.hasAlwaysInline, Qualifiers.LeavesCalls,
    Bool.and_eq_true, beq_iff_eq, Bool.not_eq_true', Bool.or_eq_false_iff,
    Qualifiers.has_eq_false_iff]

/-- Where `gnu_inline` is on all inline sides or on none, the rules ask for no more than this. -/
theorem c99InlineOnly_iff (h : ¬ s.first.HalfGnuInline s.definition) : s.c99InlineOnly = true ↔ s.first.NoExternalCopy s.definition := by
  simp only [c99InlineOnly, inlineEverywhere, gnuInline, Qualifiers.isExternal,
    Qualifiers.hasGnuInline, Bool.or_eq_true, Bool.and_eq_true, Bool.not_eq_true', Qualifiers.has_iff,
    Qualifiers.hasAnyInline_iff, ← Bool.not_eq_true,
    Qualifiers.NoExternalCopy]
  simp only [Qualifiers.HalfGnuInline] at h
  by_cases hp : s.first.Inline
  · by_cases hd : s.definition.Inline
    · have hgnu : Qualifier.gnuInline ∈ s.first ↔ Qualifier.gnuInline ∈ s.definition := by tauto
      simp only [hp, hd, hgnu]
      tauto
    · simp only [hd]
      tauto
  · simp only [hp]
    tauto

/-- A body for inlining only needs an inline spelling. -/
theorem emission_c99 (hs : s.isStatic = false) :
    s.emission .c99 = if s.c99InlineOnly then .inlineOnly else .clashing := by
  have hinline : s.c99InlineOnly = true → s.inlineSomewhere = true := by
    simp only [c99InlineOnly, inlineEverywhere, inlineSomewhere, Bool.or_eq_true, Bool.and_eq_true]
    tauto
  rw [emission, if_neg (by simp [hs])]
  by_cases h : s.c99InlineOnly = true
  · rw [if_neg (by simp [hinline h])]
  · rw [if_neg h, ite_self]

/-- Nothing but `gnu_inline` on one side stops declarations without `static`. -/
theorem compileDiagnostic?_c99 (hf : dialect.family = .c99) (hs : s.isStatic = false) :
    s.compileDiagnostic? dialect =
      if s.first.HalfGnuInline s.definition then some (.gnuInlineInconsistent .present) else none := by
  have hc89 : dialect = .c89 → s.usesInlineKeyword = false := by
    rintro rfl
    cases hf
  rw [compileDiagnostic?_of_not_static hs, if_neg (not_rejectsInline hc89), hf]
  simp [gnuInlineDrift_iff, gnuInlineStyle]

/-- The verdict from C99 on, for declarations without `static`. -/
theorem verdict_c99 (hf : dialect.family = .c99) (hs : s.isStatic = false) (level : Level) :
    (s.outcome dialect level).verdict =
      if s.first.HalfGnuInline s.definition then .diagnostic (.gnuInlineInconsistent .present)
      else if ¬ s.first.NoExternalCopy s.definition then .diagnostic .multipleDefinition
      else if s.first.LeavesCalls s.definition level then .diagnostic .undefinedReference
      else .success .useInlineDefinition := by
  by_cases hgnu : s.first.HalfGnuInline s.definition
  · have hdiagnostic : s.compileDiagnostic? dialect = some (.gnuInlineInconsistent .present) := by
      rw [compileDiagnostic?_c99 hf hs, if_pos hgnu]
    rw [if_pos hgnu, outcome_of_diagnostic hdiagnostic]
  · have hcompiled : s.compileDiagnostic? dialect = none := by
      rw [compileDiagnostic?_c99 hf hs, if_neg hgnu]
    rw [if_neg hgnu, outcome_of_compiled hcompiled, hf, emission_c99 hs]
    by_cases hcopy : s.first.NoExternalCopy s.definition
    · rw [if_pos ((c99InlineOnly_iff hgnu).mpr hcopy), if_neg (not_not.mpr hcopy)]
      simp only [Emission.verdict, lazy_iff]
    · rw [if_neg fun h => hcopy ((c99InlineOnly_iff hgnu).mp h), if_pos hcopy]
      rfl

end Sides

namespace Case

/-- The verdict on the words of both declarations from C99 on, when none of them is `static`. -/
theorem c99_verdict_by_external_copy {c : Case} (hc : c.compiler = .gcc) (hf : c.dialect.family = .c99)
    (hp : Qualifier.staticStorage ∉ c.declarations.first)
    (hd : Qualifier.staticStorage ∉ c.declarations.definition) :
    c.predictedVerdict = .ok
      (if c.declarations.first.HalfGnuInline c.declarations.definition then
        .diagnostic (.gnuInlineInconsistent .present)
      else if ¬ c.declarations.first.NoExternalCopy c.declarations.definition then
        .diagnostic .multipleDefinition
      else if c.declarations.first.LeavesCalls c.declarations.definition c.level then
        .diagnostic .undefinedReference
      else .success .useInlineDefinition) := by
  have hs : c.sides.isStatic = false := by
    rw [Sides.isStatic, Bool.or_eq_false_iff]
    exact ⟨Qualifiers.has_eq_false_iff.mpr hp, Qualifiers.has_eq_false_iff.mpr hd⟩
  rw [predictedVerdict_of_gcc hc]
  exact congrArg Except.ok (Sides.verdict_c99 hf hs c.level)

/-- One case for each verdict. Two `extern` declarations clash at any level. A single `extern inline`
definition with `gnu_inline` is a body for inlining only, whose calls are left over when nothing is optimized.
So is a single `inline` definition, but there a word forces the inlining. -/
theorem c99_verdict_by_external_copy_branches :
    let drifting : Case :=
      ⟨⟨some [.inlineKeyword, .gnuInline], [.compilerInline]⟩, .gcc, .c99, .o2⟩
    let clashing : Case := ⟨.symmetric [.externStorage], .gcc, .gnu99, .o0⟩
    let unresolved : Case :=
      ⟨.definitionOnly [.externStorage, .inlineKeyword, .gnuInline], .gcc, .gnu11, .o0⟩
    let inlined : Case := ⟨.definitionOnly [.alwaysInline, .inlineKeyword], .gcc, .c11, .o0⟩
    drifting.predictedVerdict = .ok (.diagnostic (.gnuInlineInconsistent .present)) ∧
      clashing.predictedVerdict = .ok (.diagnostic .multipleDefinition) ∧
      unresolved.predictedVerdict = .ok (.diagnostic .undefinedReference) ∧
      inlined.predictedVerdict = .ok (.success .useInlineDefinition) := by
  intro drifting clashing unresolved inlined
  refine ⟨?_, ?_, ?_, ?_⟩
  · rw [c99_verdict_by_external_copy rfl rfl (by decide) (by decide), if_pos (by decide)]
  · rw [c99_verdict_by_external_copy rfl rfl (by decide) (by decide), if_neg (by decide),
      if_pos (by decide)]
  · rw [c99_verdict_by_external_copy rfl rfl (by decide) (by decide), if_neg (by decide),
      if_neg (by decide), if_pos (by decide)]
  · rw [c99_verdict_by_external_copy rfl rfl (by decide) (by decide), if_neg (by decide),
      if_neg (by decide), if_neg (by decide)]

end Case

end InlineLinkage
