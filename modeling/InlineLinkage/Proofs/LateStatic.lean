import InlineLinkage.Proofs.WordSets

/-!
# A late `static`

A definition may be `static` behind a declaration that was not, if that declaration alone promises no
symbol to other files. What it promises is known from the program in which the definition repeats it: no
file of that program emits a body, so that it runs when it is optimized. C++ tolerates no late `static`.
-/
namespace InlineLinkage

namespace Qualifiers

theorem has_eq_false {qs : Qualifiers} {q : Qualifier} (h : q ∉ qs) : qs.has q = false :=
  has_eq_false_iff.mpr h

end Qualifiers

namespace Sides

variable {p d : Qualifiers}

theorem toleratesLateStatic_gnu89 :
    (⟨p, d⟩ : Sides).toleratesLateStatic .gnu89 = (⟨p, p⟩ : Sides).gnu89InlineOnly := by
  simp only [toleratesLateStatic, gnu89InlineOnly]
  cases p.hasAnyInline <;> cases p.isExternal <;> rfl

theorem toleratesLateStatic_c99 (hd : d.isExternal = false) :
    (⟨p, d⟩ : Sides).toleratesLateStatic .c99 = (⟨p, p⟩ : Sides).c99InlineOnly := by
  simp only [toleratesLateStatic, c99InlineOnly, inlineEverywhere, gnuInline, hd]
  cases p.hasAnyInline <;> cases p.hasGnuInline <;> cases p.isExternal <;> rfl

theorem toleratesLateStatic_of_not_inline (hi : p.hasAnyInline = false) (family : Family) :
    (⟨p, d⟩ : Sides).toleratesLateStatic family = false := by
  cases family <;> simp [toleratesLateStatic, hi]

/-- The test for a late `static` agrees with what the linker is offered when the definition repeats the
first declaration, whatever this definition adds. -/
theorem emission_symmetric (hp : p.isStatic = false) (hd : d.isExternal = false) {family : Family}
    (hf : family ≠ .cxx) :
    (⟨p, p⟩ : Sides).emission family =
      if (⟨p, d⟩ : Sides).toleratesLateStatic family then .inlineOnly else .clashing := by
  have hs : (⟨p, p⟩ : Sides).isStatic = false := by rw [isStatic, hp, Bool.or_false]
  have hi : (⟨p, p⟩ : Sides).inlineSomewhere = p.hasAnyInline := Bool.or_self _
  unfold emission
  rw [hs, hi, if_neg Bool.false_ne_true]
  cases hinline : p.hasAnyInline with
  | false =>
    rw [toleratesLateStatic_of_not_inline hinline]
    rfl
  | true =>
    cases family with
    | gnu89 =>
      rw [toleratesLateStatic_gnu89]
      rfl
    | c99 =>
      rw [toleratesLateStatic_c99 hd]
      rfl
    | cxx => contradiction

/-- Behind a declaration that is not `static` there is a definition that is. -/
structure IsLateStatic (s : Sides) : Prop where
  first : s.first.isStatic = false
  definition : s.definition.isStatic = true
  notExternal : s.definition.isExternal = false

namespace IsLateStatic

variable {s : Sides} (h : s.IsLateStatic)
include h

theorem lateStatic : s.lateStatic = true := by
  rw [Sides.lateStatic, h.first, h.definition]
  rfl

theorem storageConflict : s.storageConflict = false := by
  rw [Sides.storageConflict, h.first, h.notExternal, Bool.false_and, Bool.and_false, Bool.or_false]

theorem isStatic : s.isStatic = true := by
  rw [Sides.isStatic, h.definition, Bool.or_true]

/-- In C a late `static` is tolerated, and each file keeps a body of its own, or it is reported. -/
theorem verdict_of_c {dialect : Dialect} (hfamily : dialect.family ≠ .cxx)
    (hc89 : dialect = .c89 → s.usesInlineKeyword = false) (level : Level) :
    (s.outcome dialect level).verdict =
      if s.toleratesLateStatic dialect.family then .success .useInlineDefinition
      else .diagnostic (.staticInconsistent (s.staticStyle dialect.family)) := by
  have hdiag := compileDiagnostic?_of_c hfamily hc89
  rw [h.storageConflict, h.lateStatic] at hdiag
  cases ht : s.toleratesLateStatic dialect.family with
  | true =>
    have hnone : s.compileDiagnostic? dialect = none := by
      rw [hdiag, ht]
      simp
    rw [outcome_of_compiled hnone, emission_of_isStatic h.isStatic]
    rfl
  | false =>
    have hsome : s.compileDiagnostic? dialect =
        some (.staticInconsistent (s.staticStyle dialect.family)) := by
      rw [hdiag, ht]
      simp
    rw [outcome_of_diagnostic hsome]
    rfl

/-- In C++ a late `static` is reported, unless a doubled `inline` or a `gnu_inline` on one side comes
before it. -/
theorem verdict_of_cxx {dialect : Dialect} (hfamily : dialect.family = .cxx) (level : Level) :
    (s.outcome dialect level).verdict = .diagnostic .duplicateInline ∨
      (∃ style, (s.outcome dialect level).verdict = .diagnostic (.gnuInlineInconsistent style)) ∨
      (s.outcome dialect level).verdict = .diagnostic (.staticInconsistent .externQualified) := by
  have hdiag := compileDiagnostic?_of_cxx (s := s) hfamily
  rw [h.storageConflict, h.lateStatic, if_neg Bool.false_ne_true, if_pos rfl] at hdiag
  by_cases hdup : s.duplicateInline = true
  · rw [if_pos hdup] at hdiag
    rw [outcome_of_diagnostic hdiag]
    exact .inl rfl
  rw [if_neg hdup] at hdiag
  by_cases hdrift : s.gnuInlineDrift = true
  · rw [if_pos hdrift] at hdiag
    rw [outcome_of_diagnostic hdiag]
    exact .inr (.inl ⟨_, rfl⟩)
  · rw [if_neg hdrift] at hdiag
    rw [outcome_of_diagnostic hdiag]
    exact .inr (.inr rfl)

end IsLateStatic

/-- When the definition repeats a declaration that is not `static`, C stops at nothing but the word
`inline`. -/
theorem verdict_symmetric_of_c (hp : p.isStatic = false) {dialect : Dialect}
    (hfamily : dialect.family ≠ .cxx) (hc89 : dialect = .c89 → p.hasInline = false) (level : Level) :
    ((⟨p, p⟩ : Sides).outcome dialect level).verdict =
      ((⟨p, p⟩ : Sides).emission dialect.family).verdict ((⟨p, p⟩ : Sides).lazy level) := by
  have hkeyword : dialect = .c89 → (⟨p, p⟩ : Sides).usesInlineKeyword = false := by
    intro hd
    rw [usesInlineKeyword, hc89 hd]
    rfl
  have hnone : (⟨p, p⟩ : Sides).compileDiagnostic? dialect = none := by
    rw [compileDiagnostic?_of_c hfamily hkeyword]
    simp [storageConflict, gnuInlineDrift, lateStatic, hp]
  rw [outcome_of_compiled hnone]

end Sides

namespace Declarations

section LateStatic

variable {p d : Qualifiers} (hp : Qualifier.staticStorage ∉ p) (hd : Qualifier.staticStorage ∈ d)
  (he : Qualifier.externStorage ∉ d)
include hp hd he

theorem isLateStatic : (⟨p, d⟩ : Sides).IsLateStatic :=
  ⟨Qualifiers.has_eq_false hp, Qualifiers.has_iff.mpr hd, Qualifiers.has_eq_false he⟩

theorem gccVerdict_late_static {dialect : Dialect} (hc : dialect.isCxx = false)
    (hc89 : dialect = .c89 → Qualifier.inlineKeyword ∉ p ∧ Qualifier.inlineKeyword ∉ d)
    (level : Level) :
    gccVerdict ⟨some p, d⟩ dialect level =
      .ok (if (⟨p, d⟩ : Sides).toleratesLateStatic dialect.family then .success .useInlineDefinition
        else .diagnostic (.staticInconsistent ((⟨p, d⟩ : Sides).staticStyle dialect.family))) := by
  rw [gccVerdict_eq]
  refine congrArg _ ((isLateStatic hp hd he).verdict_of_c (beq_eq_false_iff_ne.mp hc) ?_ level)
  intro h
  exact Bool.or_eq_false_iff.mpr
    ⟨Qualifiers.has_eq_false (hc89 h).1, Qualifiers.has_eq_false (hc89 h).2⟩

omit hd in
theorem gccVerdict_symmetric {dialect : Dialect} (hc : dialect.isCxx = false)
    (hc89 : dialect = .c89 → Qualifier.inlineKeyword ∉ p) {level : Level} (hlevel : level ≠ .o0) :
    gccVerdict (.symmetric p) dialect level =
      .ok (if (⟨p, d⟩ : Sides).toleratesLateStatic dialect.family then .success .useInlineDefinition
        else .diagnostic .multipleDefinition) := by
  have hs : p.isStatic = false := Qualifiers.has_eq_false hp
  have hfamily : dialect.family ≠ .cxx := beq_eq_false_iff_ne.mp hc
  have heager : (⟨p, p⟩ : Sides).lazy level = false := by
    rw [Sides.lazy, Level.isUnoptimized, beq_eq_false_iff_ne.mpr hlevel, Bool.false_and]
  rw [gccVerdict_eq]
  refine congrArg _ ((Sides.verdict_symmetric_of_c hs hfamily
    (fun h => Qualifiers.has_eq_false (hc89 h)) level).trans ?_)
  -- What has no body of its own is inlined when optimized, so nothing but a clash can fail here.
  rw [heager, Sides.emission_symmetric hs (Qualifiers.has_eq_false he) hfamily]
  cases (⟨p, d⟩ : Sides).toleratesLateStatic dialect.family <;> rfl

/-- A late `static` is tolerated in C just if the program in which the definition repeats the first
declaration runs when it is optimized, and it is never tolerated in C++. -/
theorem late_static_tolerated_iff (dialect : Dialect) (level : Level) :
    (dialect.isCxx = false →
      (dialect = .c89 → Qualifier.inlineKeyword ∉ p ∧ Qualifier.inlineKeyword ∉ d) →
      ∀ optimized : Level, optimized ≠ .o0 →
        (gccVerdict (.symmetric p) dialect optimized = .ok (.success .useInlineDefinition) →
          gccVerdict ⟨some p, d⟩ dialect level = .ok (.success .useInlineDefinition)) ∧
        (gccVerdict (.symmetric p) dialect optimized ≠ .ok (.success .useInlineDefinition) →
          ∃ style, gccVerdict ⟨some p, d⟩ dialect level =
            .ok (.diagnostic (.staticInconsistent style)))) ∧
    (dialect.isCxx = true →
      gccVerdict ⟨some p, d⟩ dialect level = .ok (.diagnostic .duplicateInline) ∨
        (∃ style, gccVerdict ⟨some p, d⟩ dialect level =
          .ok (.diagnostic (.gnuInlineInconsistent style))) ∨
        gccVerdict ⟨some p, d⟩ dialect level =
          .ok (.diagnostic (.staticInconsistent .externQualified))) := by
  constructor
  · intro hc hc89 optimized hopt
    rw [gccVerdict_symmetric hp he hc (fun h => (hc89 h).1) hopt,
      gccVerdict_late_static hp hd he hc hc89 level]
    cases (⟨p, d⟩ : Sides).toleratesLateStatic dialect.family with
    | true =>
      refine ⟨fun _ => rfl, fun hne => ?_⟩
      exact absurd rfl hne
    | false =>
      refine ⟨fun h => ?_, fun _ => ⟨_, rfl⟩⟩
      cases h
  · intro hcxx
    rw [gccVerdict_eq]
    obtain h | ⟨style, h⟩ | h :=
      (isLateStatic hp hd he).verdict_of_cxx (beq_iff_eq.mp hcxx) level
    · exact .inl (congrArg _ h)
    · exact .inr (.inl ⟨style, congrArg _ h⟩)
    · exact .inr (.inr (congrArg _ h))

end LateStatic

/-- An inline declaration tolerates a `static` definition, whatever the definition adds. -/
theorem late_static_tolerated_inline :
    Qualifier.staticStorage ∉ [Qualifier.inlineKeyword] ∧
      gccVerdict (.symmetric [.inlineKeyword]) .gnu99 .os = .ok (.success .useInlineDefinition) ∧
      gccVerdict ⟨some [.inlineKeyword], [.inlineKeyword, .gnuInline, .staticStorage]⟩ .gnu99 .o0 =
        .ok (.success .useInlineDefinition) := by
  have hsame : gccVerdict (.symmetric [.inlineKeyword]) .gnu99 .os =
      .ok (.success .useInlineDefinition) := by rfl
  have h := late_static_tolerated_iff (p := [.inlineKeyword])
    (d := [.inlineKeyword, .gnuInline, .staticStorage]) (by decide) (by decide) (by decide) .gnu99 .o0
  exact ⟨by decide, hsame, (h.1 rfl (by decide) .os (by decide)).1 hsame⟩

end Declarations

end InlineLinkage
