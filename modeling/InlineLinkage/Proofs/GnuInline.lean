import InlineLinkage.Proofs.LateStatic

/-!
# The older rules by an attribute

From C99 on, `gnu_inline` on every inline declaration asks for the rules that held before. Two branches
that are written apart, one for each family, are compared here: with the attribute the newer one gives
the outcome that the older one gives without.
-/
namespace InlineLinkage

namespace Qualifiers

/-- The second row has the words of the first, and `gnu_inline` besides if the first is inline. It does
not matter where the word is put, nor whether it was there before. -/
def GnuInlineAdded (a b : Qualifiers) : Prop :=
  ∀ q, q ∈ b ↔ q ∈ a ∨ q = .gnuInline ∧ a.hasAnyInline = true

instance (a b : Qualifiers) : Decidable (a.GnuInlineAdded b) :=
  inferInstanceAs (Decidable (∀ q, q ∈ b ↔ q ∈ a ∨ q = .gnuInline ∧ a.hasAnyInline = true))

namespace GnuInlineAdded

variable {a b : Qualifiers} (h : a.GnuInlineAdded b)
include h

theorem has_eq {q : Qualifier} (hq : q ≠ .gnuInline) : b.has q = a.has q := by
  apply has_eq_of_iff
  rw [h q]
  exact or_iff_left fun hg => hq hg.1

theorem specifiers : b.SpecifierEquiv a where
  hasInline := h.has_eq (by decide)
  hasCompilerInline := h.has_eq (by decide)
  isStatic := h.has_eq (by decide)
  isExternal := h.has_eq (by decide)

theorem hasGnuInline : b.hasGnuInline = (a.hasGnuInline || a.hasAnyInline) := by
  rw [Bool.eq_iff_iff, Bool.or_eq_true, Qualifiers.hasGnuInline, Qualifiers.hasGnuInline, has_iff,
    has_iff, h .gnuInline]
  simp

theorem hasAlwaysInline : b.hasAlwaysInline = a.hasAlwaysInline :=
  h.has_eq (by decide)

end GnuInlineAdded

end Qualifiers

namespace Sides

/-- `gnu_inline` is put on both sides, where they are inline. -/
structure GnuInlineAdded (s t : Sides) : Prop where
  first : s.first.GnuInlineAdded t.first
  definition : s.definition.GnuInlineAdded t.definition

namespace GnuInlineAdded

variable {s t : Sides} (h : s.GnuInlineAdded t)
include h

theorem alwaysInline : t.alwaysInline = s.alwaysInline := by
  rw [Sides.alwaysInline, h.first.hasAlwaysInline, h.definition.hasAlwaysInline, Sides.alwaysInline]

theorem specifiers : t.SpecifierEquiv s :=
  ⟨h.first.specifiers, h.definition.specifiers⟩

/-- The attribute is not put where it would be ignored. -/
theorem gnuInlineAlone : t.gnuInlineAlone = s.gnuInlineAlone := by
  rw [Sides.gnuInlineAlone, h.first.hasGnuInline, h.first.specifiers.hasAnyInline,
    h.definition.hasGnuInline, h.definition.specifiers.hasAnyInline, Sides.gnuInlineAlone]
  cases s.first.hasAnyInline <;> cases s.definition.hasAnyInline <;> simp

/-- Two inline sides both have it. -/
theorem gnuInlineDrift : t.gnuInlineDrift = false := by
  rw [Sides.gnuInlineDrift, inlineEverywhere, h.first.hasGnuInline, h.first.specifiers.hasAnyInline,
    h.definition.hasGnuInline, h.definition.specifiers.hasAnyInline]
  cases s.first.hasAnyInline <;> cases s.definition.hasAnyInline <;> simp

theorem c99InlineOnly : t.c99InlineOnly = s.gnu89InlineOnly := by
  rw [Sides.c99InlineOnly, inlineEverywhere, gnuInline, h.first.hasGnuInline,
    h.first.specifiers.hasAnyInline, h.first.specifiers.isExternal, h.definition.hasGnuInline,
    h.definition.specifiers.hasAnyInline, h.definition.specifiers.isExternal, gnu89InlineOnly]
  cases s.first.hasAnyInline <;> cases s.first.isExternal <;> cases s.definition.hasAnyInline <;>
    cases s.definition.isExternal <;> simp

theorem emission : t.emission .c99 = s.emission .gnu89 := by
  unfold Sides.emission
  rw [h.specifiers.storage.isStatic, h.specifiers.storage.inlineSomewhere, h.c99InlineOnly]

theorem toleratesLateStatic (hd : s.definition.isExternal = false) :
    t.toleratesLateStatic .c99 = s.toleratesLateStatic .gnu89 := by
  simp only [Sides.toleratesLateStatic, h.first.hasGnuInline, h.first.specifiers.hasAnyInline,
    h.first.specifiers.isExternal, h.definition.specifiers.isExternal, hd]
  cases s.first.hasAnyInline <;> cases s.first.isExternal <;> simp

theorem staticStyle : t.staticStyle .c99 = .plain := by
  simp only [Sides.staticStyle, h.first.hasGnuInline, h.first.specifiers.hasAnyInline]
  cases s.first.hasAnyInline <;> simp

section Dialects

variable {dialect dialect' : Dialect} (hold : dialect.family = .gnu89)
  (hkeyword : dialect = .c89 → s.usesInlineKeyword = false) (hnew : dialect'.family = .c99)
include hold hkeyword hnew

/-- A file stops the compilation for the same reason, unless `gnu_inline` was on one side only. -/
theorem compileDiagnostic?
    (hdrift : ∀ style, s.compileDiagnostic? dialect ≠ some (.gnuInlineInconsistent style)) :
    t.compileDiagnostic? dialect' = s.compileDiagnostic? dialect := by
  have hkeyword' : dialect' = .c89 → t.usesInlineKeyword = false := by
    rintro rfl
    cases hnew
  have hs := compileDiagnostic?_of_c (by rw [hold]; decide) hkeyword
  have ht := compileDiagnostic?_of_c (by rw [hnew]; decide) hkeyword'
  rw [h.specifiers.storage.storageConflict, h.gnuInlineDrift, h.specifiers.storage.lateStatic,
    Bool.false_and, if_neg Bool.false_ne_true, hnew, h.staticStyle] at ht
  rw [hold] at hs
  cases hconflict : s.storageConflict with
  | true => rw [ht, hs, hconflict, if_pos rfl, if_pos rfl]
  | false =>
    rw [hconflict, if_neg Bool.false_ne_true] at hs ht
    -- A late `static` is asked about only where no `gnu_inline` on one side is reported before.
    have hnone : ¬ (s.gnuInlineDrift && !s.lateStatic) = true := by
      intro hd
      rw [if_pos hd] at hs
      exact hdrift _ hs
    rw [if_neg hnone] at hs
    cases hlate : s.lateStatic with
    | false =>
      rw [ht, hs, hlate, Bool.false_and, Bool.false_and]
      rfl
    | true =>
      have hstatic : s.definition.isStatic = true := (Bool.and_eq_true_iff.mp hlate).2
      have hexternal : s.definition.isExternal = false := by
        rw [Sides.storageConflict, hstatic, Bool.true_and, Bool.or_eq_false_iff] at hconflict
        exact hconflict.2
      rw [ht, hs, h.toleratesLateStatic hexternal]
      rfl

omit hkeyword hnew in
/-- A late `static` is tolerated behind inline declarations only, and they all have the attribute. So no
warning is new. -/
theorem compiledWarnings (hcompiled : s.compileDiagnostic? dialect = none) :
    t.compiledWarnings .c99 = s.compiledWarnings .gnu89 := by
  have hnew : (s.lateStatic && Family.c99 == Family.c99 && s.inlineSomewhere &&
      !t.first.hasGnuInline) = false := by
    cases hlate : s.lateStatic with
    | false => rfl
    | true =>
      have htol := toleratesLateStatic_of_compiled hcompiled hlate
      rw [hold] at htol
      have hinline : s.first.hasAnyInline = true := (Bool.and_eq_true_iff.mp htol).1
      rw [h.first.hasGnuInline, hinline, Bool.or_true]
      simp
  rw [Sides.compiledWarnings, h.gnuInlineAlone, h.alwaysInline,
    h.specifiers.storage.inlineSomewhere, h.specifiers.storage.lateStatic, hnew, Sides.compiledWarnings]
  simp

theorem outcome
    (hdrift : ∀ style, s.compileDiagnostic? dialect ≠ some (.gnuInlineInconsistent style))
    (level : Level) : t.outcome dialect' level = s.outcome dialect level := by
  have hsame := h.compileDiagnostic? hold hkeyword hnew hdrift
  cases hs : s.compileDiagnostic? dialect with
  | some d =>
    rw [outcome_of_diagnostic hs, outcome_of_diagnostic (hsame.trans hs), h.gnuInlineAlone]
  | none =>
    rw [outcome_of_compiled hs, outcome_of_compiled (hsame.trans hs), hold, hnew, h.emission,
      h.compiledWarnings hold hs, lazy, lazy, h.alwaysInline]

end Dialects

end GnuInlineAdded

end Sides

namespace Declarations

/-- `gnu_inline` is put on every declaration that is written and has an inline spelling. -/
structure GnuInlineAdded (d d' : Declarations) : Prop where
  prototype : Option.Rel Qualifiers.GnuInlineAdded d.prototype d'.prototype
  definition : d.definition.GnuInlineAdded d'.definition

theorem GnuInlineAdded.sides {d d' : Declarations} (h : d.GnuInlineAdded d') :
    Sides.GnuInlineAdded ⟨d.first, d.definition⟩ ⟨d'.first, d'.definition⟩ := by
  obtain ⟨p, q⟩ := d
  obtain ⟨p', q'⟩ := d'
  refine ⟨?_, h.definition⟩
  obtain hp | hp := h.prototype
  · exact hp
  · exact h.definition

end Declarations

namespace Case

/-- With `gnu_inline` on its inline declarations, a case has from C99 on the outcome that it has before
C99 without, if that is not about `gnu_inline` itself. -/
theorem gnu_inline_restores_gnu89 {c : Case} (hc : c.compiler = .gcc)
    (hdialect : c.dialect = .gnu89 ∨
      c.dialect = .c89 ∧ Qualifier.inlineKeyword ∉ c.declarations.first ∧
        Qualifier.inlineKeyword ∉ c.declarations.definition)
    (hverdict : ∀ style, c.predictedVerdict ≠ .ok (.diagnostic (.gnuInlineInconsistent style)))
    {declarations : Declarations} (hadded : c.declarations.GnuInlineAdded declarations)
    {dialect : Dialect} (hnew : dialect ∈ [Dialect.c99, .gnu99, .c11, .gnu11]) :
    ∃ o, c.predict = .ok o ∧ ({ c with declarations, dialect } : Case).predict = .ok o := by
  have hold : c.dialect.family = .gnu89 := by
    obtain h | ⟨h, -⟩ := hdialect
    · rw [h]
      rfl
    · rw [h]
      rfl
  have hkeyword : c.dialect = .c89 → c.sides.usesInlineKeyword = false := by
    intro h
    obtain h' | ⟨-, hfirst, hdefinition⟩ := hdialect
    · rw [h] at h'
      cases h'
    · exact Bool.or_eq_false_iff.mpr
        ⟨Qualifiers.has_eq_false hfirst, Qualifiers.has_eq_false hdefinition⟩
  have hfamily : dialect.family = .c99 := by
    revert hnew
    cases dialect <;> decide
  have hdrift : ∀ style,
      c.sides.compileDiagnostic? c.dialect ≠ some (.gnuInlineInconsistent style) := by
    intro style h
    apply hverdict style
    rw [predictedVerdict_of_gcc hc, outcome, Sides.outcome_of_diagnostic h]
  refine ⟨c.outcome, predict_of_gcc hc, ?_⟩
  have hp := predict_of_gcc (c := { c with declarations, dialect }) hc
  rw [hp]
  exact congrArg _ (hadded.sides.outcome hold hkeyword hfamily hdrift c.level)

/-- An `extern inline` definition without optimization. -/
theorem gnu_inline_restores_gnu89_external :
    let c : Case := ⟨.definitionOnly [.externStorage, .inlineKeyword], .gcc, .gnu89, .o0⟩
    let c' : Case := ⟨.definitionOnly [.externStorage, .gnuInline, .inlineKeyword], .gcc, .gnu99, .o0⟩
    c.predict = .ok ⟨.diagnostic .undefinedReference, .none⟩ ∧ c'.predict = c.predict := by
  intro c c'
  have hc : c.predict = .ok ⟨.diagnostic .undefinedReference, .none⟩ := by rfl
  have hverdict (style : GnuInlineStyle) :
      c.predictedVerdict ≠ .ok (.diagnostic (.gnuInlineInconsistent style)) := by
    rw [predictedVerdict, hc]
    rintro ⟨⟩
  have hadded : c.declarations.GnuInlineAdded c'.declarations := ⟨.none, by decide⟩
  have hnew : Dialect.gnu99 ∈ [Dialect.c99, .gnu99, .c11, .gnu11] := by decide
  obtain ⟨o, ho, ho'⟩ := gnu_inline_restores_gnu89 rfl (.inl rfl) hverdict hadded hnew
  exact ⟨hc, ho'.trans ho.symm⟩

end Case

end InlineLinkage
