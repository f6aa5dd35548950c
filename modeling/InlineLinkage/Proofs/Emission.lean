import InlineLinkage.Proofs.GccDomain

/-!
# What the object files offer to the linker

Behind the rules for the three families stands one choice: each file keeps a body of its own, or both
offer one and clash, or neither offers one, or the linker merges them. The choice is made by the
qualifiers alone. The optimization level and forced inlining come in afterwards, and as one bit only: a
lazy compilation leaves the calls to the linker.
-/
namespace InlineLinkage

/-- What the two object files hold of the function. -/
inductive Emission where
  /-- A body that the other file cannot see. -/
  | perFile
  /-- Two bodies for all files. -/
  | clashing
  /-- No body, there is only one to be inlined. -/
  | inlineOnly
  /-- Two bodies of which the linker keeps one. -/
  | merged
  deriving DecidableEq, Repr

/-- The verdict on a lazy or an eager compilation. An eager one has inlined the calls, if it may. -/
def Emission.verdict (lazy : Bool) : Emission → Verdict
  | .perFile => .success .useInlineDefinition
  | .clashing => .diagnostic .multipleDefinition
  | .inlineOnly => if lazy then .diagnostic .undefinedReference else .success .useInlineDefinition
  | .merged => if lazy then .success .linkOnceEither else .success .useInlineDefinition

namespace Verdict

/-- What becomes of the verdict on a lazy compilation when the calls are inlined instead. -/
def eager : Verdict → Verdict
  | .diagnostic .undefinedReference => .success .useInlineDefinition
  | .success .linkOnceEither => .success .useInlineDefinition
  | v => v

theorem eager_eq_ite (v : Verdict) :
    v.eager = if v = .diagnostic .undefinedReference ∨ v = .success .linkOnceEither then
      .success .useInlineDefinition else v := by
  obtain m | d := v
  · cases m <;> rfl
  · cases d <;> rfl

theorem eager_of_not_atLink {d : Diagnostic} (hd : d.isAtLink = false) :
    (diagnostic d).eager = .diagnostic d := by
  cases d with
  | undefinedReference => cases hd
  | _ => rfl

end Verdict

theorem Emission.eager_verdict (e : Emission) : (e.verdict true).eager = e.verdict false := by
  cases e <;> rfl

theorem Emission.verdict_false_ne (e : Emission) :
    e.verdict false ≠ .diagnostic .undefinedReference ∧ e.verdict false ≠ .success .linkOnceEither := by
  cases e <;> decide

namespace Qualifiers

/-- A row with an inline spelling is not the word `extern` alone. -/
theorem isExternalOnly_eq_false {qs : Qualifiers} (h : qs.hasAnyInline = true) :
    qs.isExternalOnly = false := by
  rw [isExternalOnly, beq_eq_false_iff_ne]
  rintro rfl
  contradiction

end Qualifiers

namespace Sides

/-- Nothing makes the compiler inline a call. -/
def lazy (s : Sides) (level : Level) : Bool :=
  level.isUnoptimized && !s.alwaysInline

/-- Before C99: the definition is `extern inline`, and so is an inline declaration before it. -/
def gnu89InlineOnly (s : Sides) : Bool :=
  (s.first.isExternal || !s.first.hasAnyInline) && s.definition.isExternal &&
    s.definition.hasAnyInline

/-- From C99 on: both declarations are inline and nothing more, or the definition is `extern inline` and
a `gnu_inline` reaches it that no inline declaration without `extern` takes back. -/
def c99InlineOnly (s : Sides) : Bool :=
  (s.inlineEverywhere && !s.first.isExternal && !s.definition.isExternal && !s.gnuInline) ||
    (s.definition.isExternal && s.definition.hasAnyInline && s.gnuInline &&
      (s.first.hasAnyInline || s.definition.hasGnuInline) &&
      (!s.first.hasAnyInline || !s.first.hasGnuInline || s.first.isExternal))

/-- What becomes of the function in two files that are compiled without an error. -/
def emission (s : Sides) (family : Family) : Emission :=
  if s.isStatic then .perFile
  else if !s.inlineSomewhere then .clashing
  else
    match family with
    | .gnu89 => if s.gnu89InlineOnly then .inlineOnly else .clashing
    | .c99 => if s.c99InlineOnly then .inlineOnly else .clashing
    | .cxx =>
      if s.definition.hasAnyInline && s.definition.hasGnuInline then .inlineOnly else .merged

theorem emission_of_isStatic {s : Sides} (h : s.isStatic = true) (family : Family) :
    s.emission family = .perFile :=
  if_pos h

theorem inlinedOrUndefined_eq (s : Sides) (level : Level) :
    s.inlinedOrUndefined level = Emission.inlineOnly.verdict (s.lazy level) := rfl

theorem gnu89Verdict_eq (s : Sides) (level : Level) :
    s.gnu89Verdict level =
      (if s.gnu89InlineOnly then Emission.inlineOnly else .clashing).verdict (s.lazy level) := by
  rw [gnu89Verdict, inlinedOrUndefined_eq, gnu89InlineOnly, apply_ite (Emission.verdict _)]
  rfl

theorem cxxVerdict_eq (s : Sides) (level : Level) :
    s.cxxVerdict level =
      (if s.definition.hasAnyInline && s.definition.hasGnuInline then Emission.inlineOnly
        else .merged).verdict (s.lazy level) := by
  rw [cxxVerdict, ← lazy]
  cases s.lazy level <;>
    cases s.definition.hasAnyInline && s.definition.hasGnuInline <;> rfl

theorem c99Verdict_of_inlineOnly {s : Sides} (h : s.c99InlineOnly = true) (level : Level) :
    s.c99Verdict level = s.inlinedOrUndefined level := by
  have hx : s.first.hasAnyInline = true → s.first.isExternalOnly = false :=
    Qualifiers.isExternalOnly_eq_false
  unfold c99InlineOnly at h
  simp only [c99Verdict]
  -- Only the fourth and the last arm leave no body behind; each of the others asks for too much.
  split_ifs with h1 h2 h3 h4 h5 h6
  · grind [inlineEverywhere, gnuInline]
  · grind [inlineEverywhere, gnuInline]
  · grind [inlineEverywhere, gnuInline]
  · rfl
  · grind [inlineEverywhere, gnuInline]
  · grind [inlineEverywhere, gnuInline]
  · rfl

theorem c99Verdict_of_not_inlineOnly {s : Sides} (h : s.c99InlineOnly = false) (level : Level) :
    s.c99Verdict level = .diagnostic .multipleDefinition := by
  unfold c99InlineOnly at h
  simp only [c99Verdict]
  -- And these two are out of reach if the condition fails.
  split_ifs with h1 h2 h3 h4 h5 h6
  · rfl
  · rfl
  · rfl
  · grind [inlineEverywhere, gnuInline]
  · rfl
  · rfl
  · grind [inlineEverywhere, gnuInline]

theorem c99Verdict_eq (s : Sides) (level : Level) :
    s.c99Verdict level =
      (if s.c99InlineOnly then Emission.inlineOnly else .clashing).verdict (s.lazy level) := by
  cases h : s.c99InlineOnly with
  | false => exact c99Verdict_of_not_inlineOnly h level
  | true => exact c99Verdict_of_inlineOnly h level

/-- The linker decides by the emission and one bit. -/
theorem linkVerdict_eq (s : Sides) (family : Family) (level : Level) :
    s.linkVerdict family level = (s.emission family).verdict (s.lazy level) := by
  unfold linkVerdict emission
  by_cases hs : s.isStatic = true
  · rw [if_pos hs, if_pos hs]
    rfl
  rw [if_neg hs, if_neg hs]
  by_cases hi : (!s.inlineSomewhere) = true
  · rw [if_pos hi, if_pos hi]
    rfl
  rw [if_neg hi, if_neg hi]
  cases family with
  | gnu89 => exact s.gnu89Verdict_eq level
  | c99 => exact s.c99Verdict_eq level
  | cxx => exact s.cxxVerdict_eq level

/-- What stops a compilation is never found by the linker. -/
theorem isAtLink_eq_false {s : Sides} {dialect : Dialect} {d : Diagnostic}
    (h : s.compileDiagnostic? dialect = some d) : d.isAtLink = false := by
  simp only [compileDiagnostic?] at h
  split_ifs at h <;> cases h <;> rfl

/-- The word `inline` is known to the dialect or not used. -/
theorem not_rejectsInline {s : Sides} {dialect : Dialect}
    (h : dialect = .c89 → s.usesInlineKeyword = false) :
    ¬ (!dialect.supportsInline && s.usesInlineKeyword) = true := by
  intro hr
  obtain ⟨hd, hu⟩ := Bool.and_eq_true_iff.mp hr
  have hc89 : dialect = .c89 := by
    by_contra hne
    rw [(Dialect.supportsInline_iff dialect).mpr hne] at hd
    contradiction
  rw [h hc89] at hu
  contradiction

/-- In C, once the word `inline` is accepted, there are three reasons to stop. -/
theorem compileDiagnostic?_of_c {s : Sides} {dialect : Dialect} (hfamily : dialect.family ≠ .cxx)
    (h : dialect = .c89 → s.usesInlineKeyword = false) :
    s.compileDiagnostic? dialect =
      if s.storageConflict then some .multipleStorageClasses
      else if s.gnuInlineDrift && !s.lateStatic then some (.gnuInlineInconsistent .present)
      else if s.lateStatic && !s.toleratesLateStatic dialect.family then
        some (.staticInconsistent (s.staticStyle dialect.family))
      else none := by
  have hstyle : s.gnuInlineStyle dialect.family = .present := by
    cases hf : dialect.family with
    | gnu89 => rfl
    | c99 => rfl
    | cxx => exact absurd hf hfamily
  simp only [compileDiagnostic?, if_neg (not_rejectsInline h), hfamily, decide_false,
    Bool.false_and, Bool.false_or, Bool.false_eq_true, if_false, hstyle]

/-- C++ knows the word `inline` and has four reasons to stop. No late `static` is tolerated. -/
theorem compileDiagnostic?_of_cxx {s : Sides} {dialect : Dialect} (hfamily : dialect.family = .cxx) :
    s.compileDiagnostic? dialect =
      if s.storageConflict then some .conflictingSpecifiers
      else if s.duplicateInline then some .duplicateInline
      else if s.gnuInlineDrift then some (.gnuInlineInconsistent (s.gnuInlineStyle .cxx))
      else if s.lateStatic then some (.staticInconsistent .externQualified)
      else none := by
  have hkeyword : ¬ (!dialect.supportsInline && s.usesInlineKeyword) = true := by
    apply not_rejectsInline
    rintro rfl
    cases hfamily
  simp only [compileDiagnostic?, if_neg hkeyword, hfamily, toleratesLateStatic, staticStyle,
    decide_true, Bool.true_and, Bool.true_or, Bool.and_true, Bool.not_false, if_true]

/-- Where nothing is `static` no rule about storage is left. -/
theorem compileDiagnostic?_of_not_static {s : Sides} (h : s.isStatic = false) (dialect : Dialect) :
    s.compileDiagnostic? dialect =
      if !dialect.supportsInline && s.usesInlineKeyword then some .inlineNotSupported
      else if dialect.family = .cxx && s.duplicateInline then some .duplicateInline
      else if s.gnuInlineDrift then
        some (.gnuInlineInconsistent (s.gnuInlineStyle dialect.family))
      else none := by
  obtain ⟨hp, hd⟩ := Bool.or_eq_false_iff.mp h
  have hconflict : s.storageConflict = false := by simp [storageConflict, hp, hd]
  have hlate : s.lateStatic = false := by simp [lateStatic, hd]
  simp only [compileDiagnostic?, hconflict, hlate, Bool.not_false, Bool.or_true, Bool.and_true,
    Bool.false_and, Bool.false_eq_true, if_false]

theorem toleratesLateStatic_of_compiled {s : Sides} {dialect : Dialect}
    (h : s.compileDiagnostic? dialect = none) (hl : s.lateStatic = true) :
    s.toleratesLateStatic dialect.family = true := by
  by_contra hne
  rw [Bool.not_eq_true] at hne
  simp only [compileDiagnostic?, hl, hne] at h
  split_ifs at h
  contradiction

theorem outcome_of_diagnostic {s : Sides} {dialect : Dialect} {d : Diagnostic}
    (h : s.compileDiagnostic? dialect = some d) (level : Level) :
    s.outcome dialect level = ⟨.diagnostic d, { gnuInlineIgnored := s.gnuInlineAlone }⟩ := by
  rw [outcome, h]

theorem outcome_of_compiled {s : Sides} {dialect : Dialect}
    (h : s.compileDiagnostic? dialect = none) (level : Level) :
    s.outcome dialect level =
      ⟨(s.emission dialect.family).verdict (s.lazy level), s.compiledWarnings dialect.family⟩ := by
  rw [outcome, h, linkVerdict_eq]

end Sides

namespace Case

/-- The predicted outcome without its warnings. -/
def predictedVerdict (c : Case) : Except UnknownCase Verdict :=
  c.predict.map Outcome.verdict

theorem predictedVerdict_of_gcc {c : Case} (hc : c.compiler = .gcc) :
    c.predictedVerdict = .ok c.outcome.verdict := by
  rw [predictedVerdict, predict_of_gcc hc]
  rfl

end Case

/-- The verdict that is predicted for gcc. -/
def Declarations.gccVerdict (d : Declarations) (dialect : Dialect) (level : Level) :
    Except UnknownCase Verdict :=
  (⟨d, .gcc, dialect, level⟩ : Case).predictedVerdict

theorem Declarations.gccVerdict_eq (d : Declarations) (dialect : Dialect) (level : Level) :
    d.gccVerdict dialect level =
      .ok ((⟨d.first, d.definition⟩ : Sides).outcome dialect level).verdict :=
  Case.predictedVerdict_of_gcc rfl

end InlineLinkage
