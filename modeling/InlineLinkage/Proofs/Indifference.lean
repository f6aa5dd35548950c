import InlineLinkage.Proofs.StaticSupremacy

/-!
# What a prediction does not see

Three changes leave an outcome as it is. A dialect may be replaced by another of its family. The word
`inline` may be spelled in the other way. In C++ the word `extern` may be left out. Each has the one
condition without which some rule would notice: a dialect that does not know the word `inline`, a double
`inline` that is reported, an `extern` that stands beside `static`.
-/
namespace InlineLinkage

/-- The word in the spelling of `inline` that every dialect knows. -/
def Qualifier.respelled : Qualifier → Qualifier
  | .inlineKeyword => .compilerInline
  | q => q

namespace Qualifiers

/-- Every `inline` in the spelling that every dialect knows. -/
def respelled (qs : Qualifiers) : Qualifiers :=
  qs.map Qualifier.respelled

/-- All words but `extern`. -/
def withoutExtern (qs : Qualifiers) : Qualifiers :=
  qs.filter fun q => q ≠ .externStorage

variable {qs : Qualifiers}

theorem mem_respelled {q : Qualifier} :
    q ∈ qs.respelled ↔ (q ∈ qs ∧ q ≠ .inlineKeyword) ∨
      (q = .compilerInline ∧ Qualifier.inlineKeyword ∈ qs) := by
  simp only [respelled, List.mem_map]
  constructor
  · rintro ⟨w, hw, rfl⟩
    cases w with
    | inlineKeyword => exact .inr ⟨rfl, hw⟩
    | _ => exact .inl ⟨hw, nofun⟩
  · rintro (⟨hq, hne⟩ | ⟨rfl, hw⟩)
    · refine ⟨q, hq, ?_⟩
      cases q with
      | inlineKeyword => contradiction
      | _ => rfl
    · exact ⟨_, hw, rfl⟩

theorem has_respelled {q : Qualifier} (h : q.isInlineSpelling = false) :
    qs.has q = qs.respelled.has q := by
  apply has_eq_of_iff
  rw [mem_respelled]
  constructor
  · intro hq
    refine .inl ⟨hq, ?_⟩
    rintro rfl
    cases h
  · rintro (⟨hq, -⟩ | ⟨rfl, -⟩)
    · exact hq
    · cases h

theorem hasInline_respelled : qs.respelled.hasInline = false := by
  rw [hasInline, has_eq_false_iff, mem_respelled]
  simp

theorem hasAnyInline_respelled : qs.hasAnyInline = qs.respelled.hasAnyInline := by
  rw [Bool.eq_iff_iff, hasAnyInline_eq, hasAnyInline_eq, hasInline_respelled]
  simp only [hasInline, hasCompilerInline, Bool.or_eq_true, has_iff, mem_respelled]
  tauto

theorem ruleEquiv_respelled (qs : Qualifiers) : qs.RuleEquiv qs.respelled where
  hasAnyInline := hasAnyInline_respelled
  isStatic := has_respelled rfl
  isExternal := has_respelled rfl
  hasGnuInline := has_respelled rfl

/-- Two rows of which C++ asks the same, as long as neither is `static` and `extern` at once. -/
structure CxxEquiv (a b : Qualifiers) : Prop where
  hasAnyInline : a.hasAnyInline = b.hasAnyInline
  hasBothInlines : a.hasBothInlines = b.hasBothInlines
  hasGnuInline : a.hasGnuInline = b.hasGnuInline
  hasAlwaysInline : a.hasAlwaysInline = b.hasAlwaysInline
  isStatic : a.isStatic = b.isStatic

theorem SameWordsBut.cxxEquiv {a b : Qualifiers} (h : SameWordsBut .externStorage a b) :
    a.CxxEquiv b := by
  have hinline : a.hasInline = b.hasInline := has_eq_of_iff (h _ nofun)
  have hcompiler : a.hasCompilerInline = b.hasCompilerInline := has_eq_of_iff (h _ nofun)
  exact
    { hasAnyInline := by rw [hasAnyInline_eq, hasAnyInline_eq, hinline, hcompiler]
      hasBothInlines := by rw [hasBothInlines, hasBothInlines, hinline, hcompiler]
      hasGnuInline := has_eq_of_iff (h _ nofun)
      hasAlwaysInline := has_eq_of_iff (h _ nofun)
      isStatic := has_eq_of_iff (h _ nofun) }

theorem sameWordsBut_withoutExtern (qs : Qualifiers) :
    SameWordsBut .externStorage qs qs.withoutExtern := by
  intro q hq
  simp [withoutExtern, hq]

theorem isExternal_withoutExtern : qs.withoutExtern.isExternal = false := by
  rw [isExternal, has_eq_false_iff]
  simp [withoutExtern]

end Qualifiers

namespace Sides

variable {s : Sides} {dialect : Dialect}

/-- The same change of both declarations. -/
def map (f : Qualifiers → Qualifiers) (s : Sides) : Sides :=
  ⟨f s.first, f s.definition⟩

theorem outcome_eq_of_family {dialect' : Dialect} (hfamily : dialect.family = dialect'.family)
    (h : dialect = .c89 → s.usesInlineKeyword = false)
    (h' : dialect' = .c89 → s.usesInlineKeyword = false) (level : Level) :
    s.outcome dialect level = s.outcome dialect' level := by
  have hdiagnostic : s.compileDiagnostic? dialect = s.compileDiagnostic? dialect' := by
    simp only [compileDiagnostic?, if_neg (not_rejectsInline h), if_neg (not_rejectsInline h'),
      hfamily]
  rw [outcome, outcome, hdiagnostic, hfamily]

theorem outcome_respelled {level : Level}
    (hknown : (s.outcome dialect level).verdict ≠ .diagnostic .inlineNotSupported)
    (hsingle : (s.outcome dialect level).verdict ≠ .diagnostic .duplicateInline) :
    (s.map Qualifiers.respelled).outcome dialect level = s.outcome dialect level := by
  have h : s.RuleEquiv (s.map Qualifiers.respelled) :=
    ⟨s.first.ruleEquiv_respelled, s.definition.ruleEquiv_respelled⟩
  have hkeyword' : (s.map Qualifiers.respelled).usesInlineKeyword = false := by
    rw [usesInlineKeyword, map, Qualifiers.hasInline_respelled, Qualifiers.hasInline_respelled]
    rfl
  have hdouble' : (s.map Qualifiers.respelled).duplicateInline = false := by
    simp only [duplicateInline, map, Qualifiers.hasBothInlines, Qualifiers.hasInline_respelled,
      Bool.false_and, Bool.or_false]
  have hkeyword : (!dialect.supportsInline && s.usesInlineKeyword) = false := by
    by_contra hr
    rw [Bool.not_eq_false] at hr
    apply hknown
    rw [outcome_of_diagnostic (d := .inlineNotSupported)]
    simp only [compileDiagnostic?, if_pos hr]
  have hdouble : s.storageConflict = false → dialect.family = .cxx → s.duplicateInline = false := by
    intro hs hf
    by_contra hd
    rw [Bool.not_eq_false] at hd
    apply hsingle
    rw [outcome_of_diagnostic (d := .duplicateInline)]
    rw [compileDiagnostic?_of_cxx hf, hs, hd]
    rfl
  have halways : s.alwaysInline = (s.map Qualifiers.respelled).alwaysInline := by
    rw [alwaysInline, alwaysInline]
    exact congrArg₂ _ (Qualifiers.has_respelled rfl) (Qualifiers.has_respelled rfl)
  refine (h.outcome ?_ (fun hs hf => ?_) halways level).symm
  · rw [hkeyword, hkeyword', Bool.and_false]
  · rw [hdouble hs hf, hdouble']

/-- Two pairs of declarations of which C++ asks the same, as long as no side is `static` and `extern` at
once. -/
structure CxxEquiv (s t : Sides) : Prop where
  first : s.first.CxxEquiv t.first
  definition : s.definition.CxxEquiv t.definition

namespace CxxEquiv

variable {t : Sides} (h : s.CxxEquiv t)
include h

theorem inlineSomewhere : s.inlineSomewhere = t.inlineSomewhere := by
  rw [Sides.inlineSomewhere, h.first.hasAnyInline, h.definition.hasAnyInline, Sides.inlineSomewhere]

theorem gnuInlineAlone : s.gnuInlineAlone = t.gnuInlineAlone := by
  rw [Sides.gnuInlineAlone, h.first.hasGnuInline, h.first.hasAnyInline, h.definition.hasGnuInline,
    h.definition.hasAnyInline, Sides.gnuInlineAlone]

theorem alwaysInline : s.alwaysInline = t.alwaysInline := by
  rw [Sides.alwaysInline, h.first.hasAlwaysInline, h.definition.hasAlwaysInline, Sides.alwaysInline]

theorem emission : s.emission .cxx = t.emission .cxx := by
  simp only [Sides.emission, Sides.isStatic, h.first.isStatic, h.definition.isStatic,
    h.inlineSomewhere, h.definition.hasAnyInline, h.definition.hasGnuInline]

/-- The warning about a late `static` is not given in C++. -/
theorem compiledWarnings : s.compiledWarnings .cxx = t.compiledWarnings .cxx := by
  have hnever (u : Sides) : (u.lateStatic && Family.cxx == Family.c99 && u.inlineSomewhere &&
      !u.first.hasGnuInline) = false := by
    simp
  rw [Sides.compiledWarnings, hnever, h.gnuInlineAlone, h.alwaysInline, h.inlineSomewhere,
    Sides.compiledWarnings, hnever]

section Compilation

variable (hfamily : dialect.family = .cxx) (hs : s.storageConflict = false)
  (ht : t.storageConflict = false)
include hfamily hs ht

theorem compileDiagnostic? : s.compileDiagnostic? dialect = t.compileDiagnostic? dialect := by
  have hdouble : s.duplicateInline = t.duplicateInline := by
    rw [duplicateInline, h.first.hasBothInlines, h.definition.hasBothInlines, duplicateInline]
  have hdrift : s.gnuInlineDrift = t.gnuInlineDrift := by
    rw [gnuInlineDrift, inlineEverywhere, h.first.hasAnyInline, h.first.hasGnuInline,
      h.definition.hasAnyInline, h.definition.hasGnuInline, gnuInlineDrift, inlineEverywhere]
  have hstyle : s.gnuInlineStyle .cxx = t.gnuInlineStyle .cxx := by
    simp only [gnuInlineStyle, h.first.hasGnuInline]
  have hlate : s.lateStatic = t.lateStatic := by
    rw [lateStatic, h.first.isStatic, h.definition.isStatic, lateStatic]
  rw [compileDiagnostic?_of_cxx hfamily, compileDiagnostic?_of_cxx hfamily, hs, ht, hdouble, hdrift,
    hstyle, hlate]

theorem outcome (level : Level) : s.outcome dialect level = t.outcome dialect level := by
  have hsame := h.compileDiagnostic? hfamily hs ht
  cases hd : s.compileDiagnostic? dialect with
  | some d => rw [outcome_of_diagnostic hd, outcome_of_diagnostic (hsame ▸ hd), h.gnuInlineAlone]
  | none =>
    rw [outcome_of_compiled hd, outcome_of_compiled (hsame ▸ hd), hfamily, h.emission,
      h.compiledWarnings, lazy, lazy, h.alwaysInline]

end Compilation

end CxxEquiv

theorem outcome_withoutExtern (hfamily : dialect.family = .cxx) (hs : s.storageConflict = false)
    (level : Level) :
    (s.map Qualifiers.withoutExtern).outcome dialect level = s.outcome dialect level := by
  have hnone : (s.map Qualifiers.withoutExtern).storageConflict = false := by
    simp only [storageConflict, map, Qualifiers.isExternal_withoutExtern, Bool.and_false,
      Bool.or_false]
  have h : s.CxxEquiv (s.map Qualifiers.withoutExtern) :=
    ⟨s.first.sameWordsBut_withoutExtern.cxxEquiv, s.definition.sameWordsBut_withoutExtern.cxxEquiv⟩
  exact (h.outcome hfamily hs hnone level).symm

end Sides

namespace Declarations

/-- The same change of the forward declaration, if it is written, and of the definition. -/
def map (f : Qualifiers → Qualifiers) (d : Declarations) : Declarations :=
  ⟨d.prototype.map f, f d.definition⟩

theorem first_map (f : Qualifiers → Qualifiers) (d : Declarations) : (d.map f).first = f d.first := by
  obtain ⟨p, qs⟩ := d
  cases p with
  | none => rfl
  | some p => rfl

end Declarations

namespace Case

/-- The same change of both declarations of a case. -/
def mapDeclarations (f : Qualifiers → Qualifiers) (c : Case) : Case :=
  { c with declarations := c.declarations.map f }

theorem predict_mapDeclarations {c : Case} (hc : c.compiler = .gcc) (f : Qualifiers → Qualifiers) :
    (c.mapDeclarations f).predict = .ok ((c.sides.map f).outcome c.dialect c.level) := by
  have hsides : (c.mapDeclarations f).sides = c.sides.map f := by
    rw [sides, mapDeclarations, Declarations.first_map]
    rfl
  rw [predict_of_gcc (c := c.mapDeclarations f) hc, outcome, hsides]
  rfl

/-- Another dialect of the family, the other spelling of `inline` and, in C++, no `extern`: the outcome is
the same. -/
theorem predict_sees_family_and_inline {c : Case} (hc : c.compiler = .gcc) :
    ∃ o, c.predict = .ok o ∧
      (∀ dialect : Dialect, dialect.family = c.dialect.family →
        (c.dialect = .c89 ∨ dialect = .c89 →
          Qualifier.inlineKeyword ∉ c.declarations.first ∧
            Qualifier.inlineKeyword ∉ c.declarations.definition) →
        ({ c with dialect } : Case).predict = .ok o) ∧
      (o.verdict ≠ .diagnostic .inlineNotSupported → o.verdict ≠ .diagnostic .duplicateInline →
        (c.mapDeclarations Qualifiers.respelled).predict = .ok o) ∧
      (c.dialect.isCxx = true →
        ¬ (Qualifier.staticStorage ∈ c.declarations.first ∧
            Qualifier.externStorage ∈ c.declarations.first) →
        ¬ (Qualifier.staticStorage ∈ c.declarations.definition ∧
            Qualifier.externStorage ∈ c.declarations.definition) →
        (c.mapDeclarations Qualifiers.withoutExtern).predict = .ok o) := by
  refine ⟨c.outcome, predict_of_gcc hc, fun dialect hfamily hc89 => ?_, fun hknown hsingle => ?_,
    fun hcxx hfirst hdefinition => ?_⟩
  · have hkeyword (h : c.dialect = .c89 ∨ dialect = .c89) : c.sides.usesInlineKeyword = false :=
      Bool.or_eq_false_iff.mpr
        ⟨Qualifiers.has_eq_false_iff.mpr (hc89 h).1, Qualifiers.has_eq_false_iff.mpr (hc89 h).2⟩
    have hp := predict_of_gcc (c := { c with dialect }) hc
    rw [hp]
    exact congrArg _ (Sides.outcome_eq_of_family hfamily (fun h => hkeyword (.inr h))
      (fun h => hkeyword (.inl h)) c.level)
  · rw [predict_mapDeclarations hc, Sides.outcome_respelled hknown hsingle, outcome]
  · have hstorage : c.sides.storageConflict = false := by
      rw [← Bool.not_eq_true, Sides.storageConflict_iff, not_or]
      exact ⟨hfirst, hdefinition⟩
    rw [predict_mapDeclarations hc, Sides.outcome_withoutExtern (beq_iff_eq.mp hcxx) hstorage, outcome]

/-- An `extern inline` definition that loses its `extern` and changes its dialect and its spelling, one
after the other. -/
theorem predict_sees_family_and_inline_extern :
    let c : Case :=
      ⟨⟨some [.inlineKeyword], [.externStorage, .inlineKeyword]⟩, .gcc, .cxx98, .o0⟩
    c.compiler = .gcc ∧ c.predict = .ok ⟨.success .linkOnceEither, .none⟩ ∧
      ({ c with dialect := .gnuCxx1z } : Case).predict = .ok ⟨.success .linkOnceEither, .none⟩ ∧
      (⟨⟨some [.compilerInline], [.externStorage, .compilerInline]⟩, .gcc, .cxx98, .o0⟩ :
        Case).predict = .ok ⟨.success .linkOnceEither, .none⟩ ∧
      (⟨.symmetric [.inlineKeyword], .gcc, .cxx98, .o0⟩ : Case).predict =
        .ok ⟨.success .linkOnceEither, .none⟩ := by
  intro c
  obtain ⟨o, ho, hdialect, hspelling, hextern⟩ := predict_sees_family_and_inline (c := c) rfl
  have hc : c.predict = .ok ⟨.success .linkOnceEither, .none⟩ := by rfl
  obtain rfl : (⟨.success .linkOnceEither, .none⟩ : Outcome) = o := Except.ok.inj (hc.symm.trans ho)
  exact ⟨rfl, hc, hdialect .gnuCxx1z rfl (by decide), hspelling nofun nofun,
    hextern rfl (by decide) (by decide)⟩

end Case

end InlineLinkage
