import InlineLinkage.Proofs.Emission

/-!
# Rows of qualifiers as sets

The rules ask which qualifiers a row has, never where and how often they stand in it. So two rows with
the same words are treated alike, and for everything but the one bit of laziness and one warning the
words for forced inlining do not count either. Most rules do not even see how `inline` is spelled. Which
of them see no attributes is said first, and which two look at the spelling in the end.
-/
namespace InlineLinkage

/-- What is asked of every qualifier can be checked. -/
instance Qualifier.decidableForall (P : Qualifier → Prop) [DecidablePred P] : Decidable (∀ q, P q) :=
  decidable_of_iff (∀ q ∈ all, P q) ⟨fun h q => h q q.mem_all, fun h q _ => h q⟩

namespace Qualifiers

/-- The same words, in any order and number. -/
def SameWords (a b : Qualifiers) : Prop :=
  ∀ q, q ∈ a ↔ q ∈ b

/-- The same words apart from one, which either row may have. -/
def SameWordsBut (w : Qualifier) (a b : Qualifiers) : Prop :=
  ∀ q, q ≠ w → (q ∈ a ↔ q ∈ b)

instance (a b : Qualifiers) : Decidable (a.SameWords b) :=
  inferInstanceAs (Decidable (∀ q, q ∈ a ↔ q ∈ b))

instance (w : Qualifier) (a b : Qualifiers) : Decidable (SameWordsBut w a b) :=
  inferInstanceAs (Decidable (∀ q, q ≠ w → (q ∈ a ↔ q ∈ b)))

theorem SameWords.symm {a b : Qualifiers} (h : a.SameWords b) : b.SameWords a :=
  fun q => (h q).symm

theorem SameWords.trans {a b c : Qualifiers} (h : a.SameWords b) (h' : b.SameWords c) :
    a.SameWords c :=
  fun q => (h q).trans (h' q)

theorem SameWords.but {a b : Qualifiers} (h : a.SameWords b) (w : Qualifier) : SameWordsBut w a b :=
  fun q _ => h q

theorem has_eq_of_iff {a b : Qualifiers} {q : Qualifier} (h : q ∈ a ↔ q ∈ b) : a.has q = b.has q := by
  rw [Bool.eq_iff_iff, has_iff, has_iff, h]

/-- One storage class, and both rows inline or neither, in either spelling. -/
structure StorageEquiv (a b : Qualifiers) : Prop where
  hasAnyInline : a.hasAnyInline = b.hasAnyInline
  isStatic : a.isStatic = b.isStatic
  isExternal : a.isExternal = b.isExternal

/-- The same specifiers. The attributes may differ. -/
structure SpecifierEquiv (a b : Qualifiers) : Prop where
  hasInline : a.hasInline = b.hasInline
  hasCompilerInline : a.hasCompilerInline = b.hasCompilerInline
  isStatic : a.isStatic = b.isStatic
  isExternal : a.isExternal = b.isExternal

theorem SpecifierEquiv.hasAnyInline {a b : Qualifiers} (h : a.SpecifierEquiv b) :
    a.hasAnyInline = b.hasAnyInline := by
  rw [hasAnyInline_eq, hasAnyInline_eq, h.hasInline, h.hasCompilerInline]

theorem SpecifierEquiv.storage {a b : Qualifiers} (h : a.SpecifierEquiv b) : a.StorageEquiv b :=
  ⟨h.hasAnyInline, h.isStatic, h.isExternal⟩

theorem SpecifierEquiv.hasBothInlines {a b : Qualifiers} (h : a.SpecifierEquiv b) :
    a.hasBothInlines = b.hasBothInlines := by
  rw [Qualifiers.hasBothInlines, Qualifiers.hasBothInlines, h.hasInline, h.hasCompilerInline]

/-- Two rows that only their spelling of `inline` and the words for forced inlining tell apart. -/
structure RuleEquiv (a b : Qualifiers) : Prop extends StorageEquiv a b where
  hasGnuInline : a.hasGnuInline = b.hasGnuInline

/-- Two rows that the rules about linkage cannot tell apart. -/
structure LinkEquiv (a b : Qualifiers) : Prop extends SpecifierEquiv a b where
  hasGnuInline : a.hasGnuInline = b.hasGnuInline

theorem LinkEquiv.rules {a b : Qualifiers} (h : a.LinkEquiv b) : a.RuleEquiv b :=
  ⟨h.toSpecifierEquiv.storage, h.hasGnuInline⟩

theorem SameWordsBut.linkEquiv {a b : Qualifiers} (h : SameWordsBut .alwaysInline a b) :
    a.LinkEquiv b where
  hasInline := has_eq_of_iff (h _ (by decide))
  hasCompilerInline := has_eq_of_iff (h _ (by decide))
  hasGnuInline := has_eq_of_iff (h _ (by decide))
  isStatic := has_eq_of_iff (h _ (by decide))
  isExternal := has_eq_of_iff (h _ (by decide))

end Qualifiers

namespace Sides

/-- Two pairs of declarations with the same storage classes, of which the same are inline. -/
structure StorageEquiv (s t : Sides) : Prop where
  first : s.first.StorageEquiv t.first
  definition : s.definition.StorageEquiv t.definition

namespace StorageEquiv

variable {s t : Sides} (h : s.StorageEquiv t)
include h

theorem inlineSomewhere : s.inlineSomewhere = t.inlineSomewhere := by
  rw [Sides.inlineSomewhere, h.first.hasAnyInline, h.definition.hasAnyInline, Sides.inlineSomewhere]

theorem inlineEverywhere : s.inlineEverywhere = t.inlineEverywhere := by
  rw [Sides.inlineEverywhere, h.first.hasAnyInline, h.definition.hasAnyInline,
    Sides.inlineEverywhere]

theorem isStatic : s.isStatic = t.isStatic := by
  rw [Sides.isStatic, h.first.isStatic, h.definition.isStatic, Sides.isStatic]

theorem storageConflict : s.storageConflict = t.storageConflict := by
  rw [Sides.storageConflict, h.first.isStatic, h.first.isExternal, h.definition.isStatic,
    h.definition.isExternal, Sides.storageConflict]

theorem lateStatic : s.lateStatic = t.lateStatic := by
  rw [Sides.lateStatic, h.first.isStatic, h.definition.isStatic, Sides.lateStatic]

end StorageEquiv

/-- Two pairs of declarations with the same specifiers. -/
structure SpecifierEquiv (s t : Sides) : Prop where
  first : s.first.SpecifierEquiv t.first
  definition : s.definition.SpecifierEquiv t.definition

namespace SpecifierEquiv

variable {s t : Sides} (h : s.SpecifierEquiv t)
include h

theorem storage : s.StorageEquiv t :=
  ⟨h.first.storage, h.definition.storage⟩

theorem usesInlineKeyword : s.usesInlineKeyword = t.usesInlineKeyword := by
  rw [Sides.usesInlineKeyword, h.first.hasInline, h.definition.hasInline, Sides.usesInlineKeyword]

theorem duplicateInline : s.duplicateInline = t.duplicateInline := by
  rw [Sides.duplicateInline, h.first.hasBothInlines, h.definition.hasBothInlines,
    Sides.duplicateInline]

end SpecifierEquiv

/-- Two pairs of declarations that only their spellings of `inline` and the words for forced inlining
tell apart. -/
structure RuleEquiv (s t : Sides) : Prop where
  first : s.first.RuleEquiv t.first
  definition : s.definition.RuleEquiv t.definition

namespace RuleEquiv

variable {s t : Sides} (h : s.RuleEquiv t)
include h

theorem storage : s.StorageEquiv t :=
  ⟨h.first.toStorageEquiv, h.definition.toStorageEquiv⟩

theorem gnuInline : s.gnuInline = t.gnuInline := by
  rw [Sides.gnuInline, h.first.hasGnuInline, h.definition.hasGnuInline, Sides.gnuInline]

theorem gnuInlineDrift : s.gnuInlineDrift = t.gnuInlineDrift := by
  rw [Sides.gnuInlineDrift, h.storage.inlineEverywhere, h.first.hasGnuInline,
    h.definition.hasGnuInline, Sides.gnuInlineDrift]

theorem gnuInlineAlone : s.gnuInlineAlone = t.gnuInlineAlone := by
  rw [Sides.gnuInlineAlone, h.first.hasGnuInline, h.first.hasAnyInline, h.definition.hasGnuInline,
    h.definition.hasAnyInline, Sides.gnuInlineAlone]

theorem toleratesLateStatic (family : Family) :
    s.toleratesLateStatic family = t.toleratesLateStatic family := by
  unfold Sides.toleratesLateStatic
  rw [h.first.hasAnyInline, h.first.hasGnuInline, h.first.isExternal, h.definition.isExternal]

theorem staticStyle (family : Family) : s.staticStyle family = t.staticStyle family := by
  unfold Sides.staticStyle
  rw [h.first.hasAnyInline, h.first.hasGnuInline, h.definition.isExternal]

theorem gnuInlineStyle (family : Family) : s.gnuInlineStyle family = t.gnuInlineStyle family := by
  unfold Sides.gnuInlineStyle
  rw [h.first.hasGnuInline]

theorem gnu89InlineOnly : s.gnu89InlineOnly = t.gnu89InlineOnly := by
  rw [Sides.gnu89InlineOnly, h.first.isExternal, h.first.hasAnyInline, h.definition.isExternal,
    h.definition.hasAnyInline, Sides.gnu89InlineOnly]

theorem c99InlineOnly : s.c99InlineOnly = t.c99InlineOnly := by
  rw [Sides.c99InlineOnly, h.storage.inlineEverywhere, h.gnuInline, h.first.isExternal,
    h.first.hasAnyInline, h.first.hasGnuInline, h.definition.isExternal, h.definition.hasAnyInline,
    h.definition.hasGnuInline, Sides.c99InlineOnly]

/-- The comparison of a row with the word `extern` alone cannot matter, for an emission depends on the
words as sets. -/
theorem emission (family : Family) : s.emission family = t.emission family := by
  unfold Sides.emission
  rw [h.storage.isStatic, h.storage.inlineSomewhere, h.gnu89InlineOnly, h.c99InlineOnly,
    h.definition.hasAnyInline, h.definition.hasGnuInline]

theorem compiledWarnings (ha : s.alwaysInline = t.alwaysInline) (family : Family) :
    s.compiledWarnings family = t.compiledWarnings family := by
  rw [Sides.compiledWarnings, h.gnuInlineAlone, ha, h.storage.inlineSomewhere, h.storage.lateStatic,
    h.first.hasGnuInline, Sides.compiledWarnings]

section Spellings

variable {dialect : Dialect}
  (hkeyword : (!dialect.supportsInline && s.usesInlineKeyword) =
    (!dialect.supportsInline && t.usesInlineKeyword))
  (hdouble : s.storageConflict = false → dialect.family = .cxx → s.duplicateInline = t.duplicateInline)
include hkeyword hdouble

/-- Two rules look at the spellings of `inline`. If they agree, so do all. -/
theorem compileDiagnostic? : s.compileDiagnostic? dialect = t.compileDiagnostic? dialect := by
  unfold Sides.compileDiagnostic?
  dsimp only
  rw [hkeyword, ← h.storage.storageConflict]
  cases hs : s.storageConflict with
  | true => simp only [if_true]
  | false =>
    have hrule : (dialect.family = .cxx && s.duplicateInline) =
        (dialect.family = .cxx && t.duplicateInline) := by
      by_cases hf : dialect.family = .cxx
      · rw [hdouble hs hf]
      · rw [decide_eq_false hf, Bool.false_and, Bool.false_and]
    rw [hrule, h.gnuInlineDrift, h.storage.lateStatic, h.gnuInlineStyle, h.toleratesLateStatic,
      h.staticStyle]

/-- Once both pairs agree on forced inlining as well, nothing is left that could tell them apart. -/
theorem outcome (ha : s.alwaysInline = t.alwaysInline) (level : Level) :
    s.outcome dialect level = t.outcome dialect level := by
  have hsame := h.compileDiagnostic? hkeyword hdouble
  cases hs : s.compileDiagnostic? dialect with
  | some d =>
    rw [outcome_of_diagnostic hs, outcome_of_diagnostic (hsame ▸ hs), h.gnuInlineAlone]
  | none =>
    rw [outcome_of_compiled hs, outcome_of_compiled (hsame ▸ hs), h.emission, h.compiledWarnings ha,
      lazy, lazy, ha]

end Spellings

end RuleEquiv

/-- Two pairs of declarations that the rules about linkage cannot tell apart. -/
structure LinkEquiv (s t : Sides) : Prop where
  first : s.first.LinkEquiv t.first
  definition : s.definition.LinkEquiv t.definition

namespace LinkEquiv

variable {s t : Sides} (h : s.LinkEquiv t)
include h

theorem specifiers : s.SpecifierEquiv t :=
  ⟨h.first.toSpecifierEquiv, h.definition.toSpecifierEquiv⟩

theorem rules : s.RuleEquiv t :=
  ⟨h.first.rules, h.definition.rules⟩

theorem compileDiagnostic? (dialect : Dialect) :
    s.compileDiagnostic? dialect = t.compileDiagnostic? dialect :=
  h.rules.compileDiagnostic? (by rw [h.specifiers.usesInlineKeyword])
    fun _ _ => h.specifiers.duplicateInline

theorem outcome (ha : s.alwaysInline = t.alwaysInline) (dialect : Dialect) (level : Level) :
    s.outcome dialect level = t.outcome dialect level :=
  h.rules.outcome (by rw [h.specifiers.usesInlineKeyword])
    (fun _ _ => h.specifiers.duplicateInline) ha level

end LinkEquiv

/-- An outcome depends on the words as sets. -/
theorem outcome_congr {s t : Sides} (hf : s.first.SameWords t.first)
    (hd : s.definition.SameWords t.definition) (dialect : Dialect) (level : Level) :
    s.outcome dialect level = t.outcome dialect level := by
  have h : s.LinkEquiv t := ⟨(hf.but _).linkEquiv, (hd.but _).linkEquiv⟩
  apply h.outcome
  rw [alwaysInline, alwaysInline]
  exact congrArg₂ _ (Qualifiers.has_eq_of_iff (hf _)) (Qualifiers.has_eq_of_iff (hd _))

end Sides

end InlineLinkage
