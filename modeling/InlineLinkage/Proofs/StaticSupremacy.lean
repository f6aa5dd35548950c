import InlineLinkage.Proofs.ExternalCopy

/-!
# What `static` settles

A function that is `static` in one of its declarations never reaches the linker: its file is refused, or
each file keeps a body of its own. If the first declaration is the `static` one, only words that do not go
together are left to be refused. Without the word no rule about it applies, and a program can reach the
bodies of its own files by inlining alone.
-/
namespace InlineLinkage

namespace Verdict

/-- The compiler refuses a file. -/
inductive Refused : Verdict → Prop where
  | inlineNotSupported : Refused (.diagnostic .inlineNotSupported)
  | multipleStorageClasses : Refused (.diagnostic .multipleStorageClasses)
  | conflictingSpecifiers : Refused (.diagnostic .conflictingSpecifiers)
  | duplicateInline : Refused (.diagnostic .duplicateInline)
  | gnuInlineInconsistent (style : GnuInlineStyle) :
      Refused (.diagnostic (.gnuInlineInconsistent style))
  | staticInconsistent (style : StaticStyle) : Refused (.diagnostic (.staticInconsistent style))

theorem refused_of_not_atLink {d : Diagnostic} (h : d.isAtLink = false) : (diagnostic d).Refused := by
  cases d with
  | multipleDefinition => cases h
  | undefinedReference => cases h
  | _ => constructor

/-- Neither the linker nor a choice between two bodies has a part in it. -/
def AsksNoLinker (v : Verdict) : Prop :=
  v ≠ .diagnostic .multipleDefinition ∧ v ≠ .diagnostic .undefinedReference ∧
    v ≠ .success .linkOnceEither

theorem Refused.asksNoLinker {v : Verdict} (h : v.Refused) : v.AsksNoLinker := by
  cases h <;> exact ⟨nofun, nofun, nofun⟩

theorem asksNoLinker_useInlineDefinition : (success .useInlineDefinition).AsksNoLinker :=
  ⟨nofun, nofun, nofun⟩

end Verdict

/-- What is emitted for one file only is used, and so is what is inlined. -/
theorem Emission.verdict_eq_useInlineDefinition_iff {e : Emission} {lazy : Bool} :
    e.verdict lazy = .success .useInlineDefinition ↔ e = .perFile ∨ e ≠ .clashing ∧ lazy = false := by
  cases e <;> cases lazy <;> decide

/-- No two words of a first declaration and a definition exclude each other, be they written in one place or
in places that must agree. -/
structure Qualifiers.GoTogether (first definition : Qualifiers) (dialect : Dialect) : Prop where
  keyword : dialect = .c89 →
    Qualifier.inlineKeyword ∉ first ∧ Qualifier.inlineKeyword ∉ definition
  firstStorage : ¬ (Qualifier.staticStorage ∈ first ∧ Qualifier.externStorage ∈ first)
  definitionStorage :
    ¬ (Qualifier.staticStorage ∈ definition ∧ Qualifier.externStorage ∈ definition)
  firstSpelling : ¬ (Qualifier.inlineKeyword ∈ first ∧ Qualifier.compilerInline ∈ first)
  definitionSpelling :
    ¬ (Qualifier.inlineKeyword ∈ definition ∧ Qualifier.compilerInline ∈ definition)
  gnuInline : ¬ first.HalfGnuInline definition

namespace Sides

variable {s : Sides} {dialect : Dialect} {level : Level}

theorem isStatic_iff :
    s.isStatic = true ↔
      Qualifier.staticStorage ∈ s.first ∨ Qualifier.staticStorage ∈ s.definition := by
  simp only [isStatic, Qualifiers.isStatic, Bool.or_eq_true, Qualifiers.has_iff]

theorem usesInlineKeyword_iff :
    s.usesInlineKeyword = true ↔
      Qualifier.inlineKeyword ∈ s.first ∨ Qualifier.inlineKeyword ∈ s.definition := by
  simp only [usesInlineKeyword, Qualifiers.hasInline, Bool.or_eq_true, Qualifiers.has_iff]

theorem storageConflict_iff :
    s.storageConflict = true ↔
      (Qualifier.staticStorage ∈ s.first ∧ Qualifier.externStorage ∈ s.first) ∨
        (Qualifier.staticStorage ∈ s.definition ∧ Qualifier.externStorage ∈ s.definition) := by
  simp only [storageConflict, Qualifiers.isStatic, Qualifiers.isExternal, Bool.or_eq_true,
    Bool.and_eq_true, Qualifiers.has_iff]

theorem duplicateInline_iff :
    s.duplicateInline = true ↔
      (Qualifier.inlineKeyword ∈ s.first ∧ Qualifier.compilerInline ∈ s.first) ∨
        (Qualifier.inlineKeyword ∈ s.definition ∧ Qualifier.compilerInline ∈ s.definition) := by
  simp only [duplicateInline, Qualifiers.hasBothInlines, Qualifiers.hasInline,
    Qualifiers.hasCompilerInline, Bool.or_eq_true, Bool.and_eq_true, Qualifiers.has_iff]

theorem inlineSomewhere_iff : s.inlineSomewhere = true ↔ s.first.Inline ∨ s.definition.Inline := by
  rw [inlineSomewhere, Bool.or_eq_true, Qualifiers.hasAnyInline_iff, Qualifiers.hasAnyInline_iff]

theorem verdict_of_isStatic (h : s.isStatic = true) (dialect : Dialect) (level : Level) :
    (s.outcome dialect level).verdict = .success .useInlineDefinition ∨
      (s.outcome dialect level).verdict.Refused := by
  cases hd : s.compileDiagnostic? dialect with
  | some d =>
    rw [outcome_of_diagnostic hd]
    exact .inr (Verdict.refused_of_not_atLink (isAtLink_eq_false hd))
  | none =>
    rw [outcome_of_compiled hd, emission_of_isStatic h]
    exact .inl rfl

/-- A first declaration that is `static` leaves no later one to report. -/
theorem compileDiagnostic?_of_static_first (hs : Qualifier.staticStorage ∈ s.first)
    (h : s.first.GoTogether s.definition dialect) : s.compileDiagnostic? dialect = none := by
  have hkeyword : ¬ (!dialect.supportsInline && s.usesInlineKeyword) = true := by
    apply not_rejectsInline
    intro hc89
    rw [← Bool.not_eq_true, usesInlineKeyword_iff, not_or]
    exact h.keyword hc89
  have hstorage : s.storageConflict = false := by
    rw [← Bool.not_eq_true, storageConflict_iff, not_or]
    exact ⟨h.firstStorage, h.definitionStorage⟩
  have hspelling : s.duplicateInline = false := by
    rw [← Bool.not_eq_true, duplicateInline_iff, not_or]
    exact ⟨h.firstSpelling, h.definitionSpelling⟩
  have hgnu : s.gnuInlineDrift = false := by
    rw [← Bool.not_eq_true, gnuInlineDrift_iff]
    exact h.gnuInline
  have hlate : s.lateStatic = false := by
    have hfirst : s.first.isStatic = true := Qualifiers.has_iff.mpr hs
    rw [lateStatic, hfirst]
    rfl
  simp only [compileDiagnostic?, if_neg hkeyword, hstorage, hspelling, hgnu, hlate, Bool.and_false,
    Bool.false_and, Bool.false_eq_true, if_false]

theorem verdict_of_static_first (hs : Qualifier.staticStorage ∈ s.first)
    (h : s.first.GoTogether s.definition dialect) (level : Level) :
    (s.outcome dialect level).verdict = .success .useInlineDefinition := by
  have hstatic : s.isStatic = true := isStatic_iff.mpr (.inl hs)
  rw [outcome_of_compiled (compileDiagnostic?_of_static_first hs h), emission_of_isStatic hstatic]
  rfl

/-- The verdict says nothing about the word or about storage. -/
theorem verdict_of_not_static (h : s.isStatic = false) (dialect : Dialect) (level : Level) :
    (∀ style, (s.outcome dialect level).verdict ≠ .diagnostic (.staticInconsistent style)) ∧
      (s.outcome dialect level).verdict ≠ .diagnostic .multipleStorageClasses ∧
      (s.outcome dialect level).verdict ≠ .diagnostic .conflictingSpecifiers := by
  cases hd : s.compileDiagnostic? dialect with
  | some d =>
    rw [outcome_of_diagnostic hd]
    rw [compileDiagnostic?_of_not_static h] at hd
    split_ifs at hd <;> cases hd <;> exact ⟨nofun, nofun, nofun⟩
  | none =>
    have hcompiled : (s.outcome dialect level).verdict.Compiled := compiled_iff.mpr hd
    refine ⟨fun style hv => ?_, fun hv => ?_, fun hv => ?_⟩
    all_goals
      rw [hv] at hcompiled
      exact Verdict.not_compiled_of_not_atLink rfl hcompiled

theorem inlineNeverDefined_of_not_static (h : s.isStatic = false) (dialect : Dialect)
    (level : Level) : (s.outcome dialect level).warnings.inlineNeverDefined = false := by
  rw [← Bool.not_eq_true]
  intro hw
  have hd := (isNeverDefined_of_warned hw).2.isStatic
  rw [h] at hd
  cases hd

/-- A file keeps a body of its own only by the word. -/
theorem emission_ne_perFile (h : s.isStatic = false) (family : Family) :
    s.emission family ≠ .perFile := by
  unfold emission
  rw [h, if_neg Bool.false_ne_true]
  cases family <;> dsimp only <;> split_ifs <;> nofun

theorem emission_of_not_inline (hs : s.isStatic = false) (hi : s.inlineSomewhere = false)
    (family : Family) : s.emission family = .clashing := by
  simp only [emission, hs, hi, Bool.false_eq_true, if_false, Bool.not_false, if_true]

/-- Without the word a program that runs each file's own body has inlined the calls. -/
theorem inlined_of_not_static (h : s.isStatic = false)
    (hv : (s.outcome dialect level).verdict = .success .useInlineDefinition) :
    (s.first.Inline ∨ s.definition.Inline) ∧ ¬ s.first.LeavesCalls s.definition level := by
  cases hd : s.compileDiagnostic? dialect with
  | some d =>
    rw [outcome_of_diagnostic hd] at hv
    cases hv
  | none =>
    rw [outcome_of_compiled hd] at hv
    obtain hfile | ⟨hclash, hlazy⟩ := Emission.verdict_eq_useInlineDefinition_iff.mp hv
    · exact absurd hfile (emission_ne_perFile h _)
    · refine ⟨inlineSomewhere_iff.mp ?_, fun hleaves => ?_⟩
      · by_contra hi
        exact hclash (emission_of_not_inline h (Bool.not_eq_true _ ▸ hi) _)
      · rw [lazy_iff.mpr hleaves] at hlazy
        cases hlazy

end Sides

namespace Case

/-- What the word `static` settles of a case, and what goes without saying where it is not written. -/
theorem static_supremacy {c : Case} (hc : c.compiler = .gcc) :
    ∃ o, c.predict = .ok o ∧
      (Qualifier.staticStorage ∈ c.declarations.first ∨
          Qualifier.staticStorage ∈ c.declarations.definition →
        (o.verdict = .success .useInlineDefinition ∨ o.verdict.Refused) ∧ o.verdict.AsksNoLinker) ∧
      (Qualifier.staticStorage ∈ c.declarations.first →
        c.declarations.first.GoTogether c.declarations.definition c.dialect →
        o.verdict = .success .useInlineDefinition) ∧
      (Qualifier.staticStorage ∉ c.declarations.first →
        Qualifier.staticStorage ∉ c.declarations.definition →
        (∀ style, o.verdict ≠ .diagnostic (.staticInconsistent style)) ∧
          o.verdict ≠ .diagnostic .multipleStorageClasses ∧
          o.verdict ≠ .diagnostic .conflictingSpecifiers ∧
          o.warnings.has .inlineNeverDefined = false ∧
          (o.verdict = .success .useInlineDefinition →
            (c.declarations.first.Inline ∨ c.declarations.definition.Inline) ∧
              (c.level ≠ .o0 ∨ Qualifier.alwaysInline ∈ c.declarations.first ∨
                Qualifier.alwaysInline ∈ c.declarations.definition))) := by
  refine ⟨c.outcome, predict_of_gcc hc, fun hs => ?_, fun hs h => ?_, fun hp hd => ?_⟩
  · have hstatic : c.sides.isStatic = true := Sides.isStatic_iff.mpr hs
    have hv := Sides.verdict_of_isStatic hstatic c.dialect c.level
    refine ⟨hv, ?_⟩
    obtain hv | hv := hv
    · rw [outcome, hv]
      exact Verdict.asksNoLinker_useInlineDefinition
    · exact hv.asksNoLinker
  · exact Sides.verdict_of_static_first hs h c.level
  · have hs : c.sides.isStatic = false := by
      rw [← Bool.not_eq_true, Sides.isStatic_iff, not_or]
      exact ⟨hp, hd⟩
    obtain ⟨hstyle, hclasses, hspecifiers⟩ := Sides.verdict_of_not_static hs c.dialect c.level
    refine ⟨hstyle, hclasses, hspecifiers, Sides.inlineNeverDefined_of_not_static hs _ _,
      fun hv => ?_⟩
    obtain ⟨hinline, hleaves⟩ := Sides.inlined_of_not_static hs hv
    refine ⟨hinline, ?_⟩
    by_contra hlazy
    push Not at hlazy
    exact hleaves hlazy

/-- An inline definition behind a `static` declaration stays in its file, whatever the dialect makes of
`inline`. -/
theorem static_supremacy_declaration :
    let c : Case := ⟨⟨some [.staticStorage], [.gnuInline, .inlineKeyword]⟩, .gcc, .gnuCxx11, .o0⟩
    c.compiler = .gcc ∧ c.predictedVerdict = .ok (.success .useInlineDefinition) := by
  intro c
  obtain ⟨o, ho, -, hfirst, -⟩ := static_supremacy (c := c) rfl
  have htogether : c.declarations.first.GoTogether c.declarations.definition c.dialect :=
    ⟨by decide, by decide, by decide, by decide, by decide, by decide⟩
  refine ⟨rfl, ?_⟩
  rw [predictedVerdict, ho]
  exact congrArg _ (hfirst (by decide) htogether)

end Case

end InlineLinkage
