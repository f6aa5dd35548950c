import InlineLinkage.Proofs.LateStatic

/-!
# When a warning is listed

Three places list a warning, and between them stand rules that may stop the compilation first. Each
warning has a condition of its own nevertheless: one attribute without an inline spelling on its side,
one without any inline spelling in a program that is compiled, and an inline declaration of the newer
kind whose definition is `static`. That the last is compiled follows from the condition itself.
-/
namespace InlineLinkage

namespace Verdict

/-- Both files were compiled: the program runs, or the linker finds the fault. -/
def Compiled (v : Verdict) : Prop :=
  (∃ m, v = .success m) ∨ v = .diagnostic .multipleDefinition ∨ v = .diagnostic .undefinedReference

theorem not_compiled_of_not_atLink {d : Diagnostic} (h : d.isAtLink = false) :
    ¬ (diagnostic d).Compiled := by
  rintro (⟨m, hm⟩ | hd | hd)
  · cases hm
  · cases hd
    cases h
  · cases hd
    cases h

end Verdict

theorem Emission.compiled_verdict (e : Emission) (lazy : Bool) : (e.verdict lazy).Compiled := by
  cases e with
  | perFile => exact .inl ⟨_, rfl⟩
  | clashing => exact .inr (.inl rfl)
  | inlineOnly =>
    cases lazy with
    | false => exact .inl ⟨_, rfl⟩
    | true => exact .inr (.inr rfl)
  | merged =>
    cases lazy with
    | false => exact .inl ⟨_, rfl⟩
    | true => exact .inl ⟨_, rfl⟩

namespace Qualifiers

/-- One of the two spellings of `inline` is among the words. -/
def Inline (qs : Qualifiers) : Prop :=
  Qualifier.inlineKeyword ∈ qs ∨ Qualifier.compilerInline ∈ qs

instance (qs : Qualifiers) : Decidable qs.Inline :=
  inferInstanceAs (Decidable (_ ∨ _))

theorem hasAnyInline_iff {qs : Qualifiers} : qs.hasAnyInline = true ↔ qs.Inline := by
  rw [hasAnyInline_eq, Bool.or_eq_true, hasInline, hasCompilerInline, has_iff, has_iff, Inline]

end Qualifiers

namespace Sides

variable {s : Sides} {dialect : Dialect} {level : Level}

/-- Rules stop the compilation or leave it to the linker, and the verdict tells which. -/
theorem compiled_iff :
    (s.outcome dialect level).verdict.Compiled ↔ s.compileDiagnostic? dialect = none := by
  cases h : s.compileDiagnostic? dialect with
  | some d =>
    rw [outcome_of_diagnostic h]
    exact iff_of_false (Verdict.not_compiled_of_not_atLink (isAtLink_eq_false h)) (by simp)
  | none =>
    rw [outcome_of_compiled h]
    exact iff_of_true (Emission.compiled_verdict _ _) rfl

theorem gnuInlineIgnored_eq :
    (s.outcome dialect level).warnings.gnuInlineIgnored = s.gnuInlineAlone := by
  cases h : s.compileDiagnostic? dialect with
  | some d => rw [outcome_of_diagnostic h]
  | none =>
    rw [outcome_of_compiled h]
    rfl

theorem gnuInlineAlone_iff :
    s.gnuInlineAlone = true ↔
      (Qualifier.gnuInline ∈ s.first ∧ ¬ s.first.Inline) ∨
        (Qualifier.gnuInline ∈ s.definition ∧ ¬ s.definition.Inline) := by
  simp only [gnuInlineAlone, Qualifiers.hasGnuInline, Bool.or_eq_true, Bool.and_eq_true,
    Bool.not_eq_true', ← Bool.not_eq_true, Qualifiers.has_iff, Qualifiers.hasAnyInline_iff]

theorem alwaysInlineIgnored_iff :
    (s.outcome dialect level).warnings.alwaysInlineIgnored = true ↔
      (s.alwaysInline = true ∧ s.inlineSomewhere = false) ∧
        (s.outcome dialect level).verdict.Compiled := by
  rw [compiled_iff]
  cases h : s.compileDiagnostic? dialect with
  | some d =>
    rw [outcome_of_diagnostic h]
    simp
  | none =>
    rw [outcome_of_compiled h]
    simp [compiledWarnings]

/-- An inline declaration that asks for no symbol, and behind it a `static` definition. -/
structure IsNeverDefined (s : Sides) : Prop extends s.IsLateStatic where
  inline : s.first.hasAnyInline = true
  notGnuInline : s.first.hasGnuInline = false
  firstNotExternal : s.first.isExternal = false

/-- The late `static` is tolerated, and nothing else can stop the compilation. -/
theorem IsNeverDefined.verdict (h : s.IsNeverDefined) (hf : dialect.family = .c99) :
    (s.outcome dialect level).verdict = .success .useInlineDefinition := by
  have hfamily : dialect.family ≠ .cxx := by rw [hf]; decide
  have hc89 : dialect = .c89 → s.usesInlineKeyword = false := by
    rintro rfl
    cases hf
  rw [h.verdict_of_c hfamily hc89, hf, toleratesLateStatic, h.inline, h.notGnuInline,
    h.firstNotExternal]
  rfl

theorem IsNeverDefined.warned (h : s.IsNeverDefined) (hf : dialect.family = .c99) :
    (s.outcome dialect level).warnings.inlineNeverDefined = true := by
  have hcompiled : (s.outcome dialect level).verdict.Compiled := by
    rw [h.verdict hf]
    exact .inl ⟨_, rfl⟩
  have hinline : s.inlineSomewhere = true := by rw [inlineSomewhere, h.inline, Bool.true_or]
  rw [outcome_of_compiled (compiled_iff.mp hcompiled), compiledWarnings, hf, h.lateStatic, hinline,
    h.notGnuInline]
  rfl

theorem storageConflict_of_compiled (h : s.compileDiagnostic? dialect = none) :
    s.storageConflict = false := by
  by_contra hne
  rw [Bool.not_eq_false] at hne
  simp only [compileDiagnostic?, hne, if_true] at h
  split_ifs at h

/-- The rules that the compilation has passed say the rest of the condition. -/
theorem isNeverDefined_of_warned
    (h : (s.outcome dialect level).warnings.inlineNeverDefined = true) :
    dialect.family = .c99 ∧ s.IsNeverDefined := by
  cases hd : s.compileDiagnostic? dialect with
  | some d =>
    rw [outcome_of_diagnostic hd] at h
    cases h
  | none =>
    rw [outcome_of_compiled hd] at h
    simp only [compiledWarnings, Bool.and_eq_true, beq_iff_eq, Bool.not_eq_true'] at h
    obtain ⟨⟨⟨hlate, hf⟩, -⟩, hgnu⟩ := h
    have htol := toleratesLateStatic_of_compiled hd hlate
    have hconflict := storageConflict_of_compiled hd
    simp only [hf, toleratesLateStatic, hgnu, Bool.not_false, Bool.and_true, Bool.and_false,
      Bool.false_and, Bool.or_false, Bool.and_eq_true, Bool.not_eq_true'] at htol
    simp only [lateStatic, Bool.and_eq_true, Bool.not_eq_true'] at hlate
    rw [storageConflict, hlate.2, Bool.true_and, Bool.or_eq_false_iff] at hconflict
    exact ⟨hf, ⟨hlate.1, hlate.2, hconflict.2⟩, htol.1, hgnu, htol.2⟩

end Sides

namespace Case

/-- Which warnings a case has, by the words of its first declaration and of its definition. -/
theorem listed_warnings_iff {c : Case} (hc : c.compiler = .gcc) :
    ∃ o, c.predict = .ok o ∧
      (o.warnings.has .gnuInlineIgnored = true ↔
        (Qualifier.gnuInline ∈ c.declarations.first ∧ ¬ c.declarations.first.Inline) ∨
          (Qualifier.gnuInline ∈ c.declarations.definition ∧ ¬ c.declarations.definition.Inline)) ∧
      (o.warnings.has .alwaysInlineIgnored = true ↔
        (Qualifier.alwaysInline ∈ c.declarations.first ∨
            Qualifier.alwaysInline ∈ c.declarations.definition) ∧
          ¬ c.declarations.first.Inline ∧ ¬ c.declarations.definition.Inline ∧
          o.verdict.Compiled) ∧
      (o.warnings.has .inlineNeverDefined = true ↔
        c.dialect.family = .c99 ∧ c.declarations.first.Inline ∧
          Qualifier.gnuInline ∉ c.declarations.first ∧
          Qualifier.externStorage ∉ c.declarations.first ∧
          Qualifier.staticStorage ∉ c.declarations.first ∧
          Qualifier.staticStorage ∈ c.declarations.definition ∧
          Qualifier.externStorage ∉ c.declarations.definition) ∧
      (o.warnings.has .inlineNeverDefined = true → o.verdict = .success .useInlineDefinition) := by
  refine ⟨c.outcome, predict_of_gcc hc, ?_, ?_, ?_, ?_⟩
  · rw [Warnings.has, outcome, Sides.gnuInlineIgnored_eq]
    exact Sides.gnuInlineAlone_iff
  · rw [Warnings.has, outcome, Sides.alwaysInlineIgnored_iff]
    simp only [Sides.alwaysInline, Sides.inlineSomewhere, Qualifiers.hasAlwaysInline,
      Bool.or_eq_true, ← Bool.not_eq_true, Qualifiers.has_iff, Qualifiers.hasAnyInline_iff, not_or,
      and_assoc]
    rfl
  · constructor
    · intro h
      obtain ⟨hf, hn⟩ := Sides.isNeverDefined_of_warned h
      exact ⟨hf, Qualifiers.hasAnyInline_iff.mp hn.inline,
        Qualifiers.has_eq_false_iff.mp hn.notGnuInline,
        Qualifiers.has_eq_false_iff.mp hn.firstNotExternal, Qualifiers.has_eq_false_iff.mp hn.first,
        Qualifiers.has_iff.mp hn.definition, Qualifiers.has_eq_false_iff.mp hn.notExternal⟩
    · rintro ⟨hf, hi, hg, he, hs, hds, hde⟩
      have hn : c.sides.IsNeverDefined :=
        { first := Qualifiers.has_eq_false_iff.mpr hs
          definition := Qualifiers.has_iff.mpr hds
          notExternal := Qualifiers.has_eq_false_iff.mpr hde
          inline := Qualifiers.hasAnyInline_iff.mpr hi
          notGnuInline := Qualifiers.has_eq_false_iff.mpr hg
          firstNotExternal := Qualifiers.has_eq_false_iff.mpr he }
      exact hn.warned hf
  · intro h
    obtain ⟨hf, hn⟩ := Sides.isNeverDefined_of_warned h
    exact hn.verdict hf

/-- A late `static` behind an inline declaration, with `gnu_inline` and forced inlining on a side that is
not inline itself. -/
theorem listed_warnings_neverDefined :
    let c : Case :=
      ⟨⟨some [.compilerInline], [.gnuInline, .staticStorage, .alwaysInline]⟩, .gcc, .c11, .o0⟩
    c.compiler = .gcc ∧ ∃ o, c.predict = .ok o ∧ o.warnings.has .gnuInlineIgnored = true ∧
      o.warnings.has .alwaysInlineIgnored = false ∧ o.warnings.has .inlineNeverDefined = true ∧
      o.verdict = .success .useInlineDefinition := by
  intro c
  obtain ⟨o, ho, hgnu, halways, hnever, hverdict⟩ := listed_warnings_iff (c := c) rfl
  have hlisted : o.warnings.has .inlineNeverDefined = true := hnever.mpr (by decide)
  refine ⟨rfl, o, ho, hgnu.mpr (by decide), ?_, hlisted, hverdict hlisted⟩
  rw [← Bool.not_eq_true, halways]
  exact fun h => absurd h.2.1 (by decide)

end Case

end InlineLinkage
