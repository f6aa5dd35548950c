import InlineLinkage.Domain
import InlineLinkage.Proofs.WordSets

/-!
# The exhaustive domain represents all cases

Two bits for each qualifier describe any pair of sets of qualifiers, and each pair by one pattern only.
So every case for gcc, however its rows are written, has one case of the exhaustive domain with the same
words, and that case has the same outcome.
-/
namespace InlineLinkage

theorem nodup_flatMap_of_key {α β : Type} {l : List α} {f : α → List β} (key : β → α)
    (hl : l.Nodup) (hf : ∀ a ∈ l, (f a).Nodup) (hkey : ∀ a ∈ l, ∀ b ∈ f a, key b = a) :
    (l.flatMap f).Nodup := by
  rw [List.nodup_flatMap]
  refine ⟨hf, hl.imp_of_mem ?_⟩
  intro a a' ha ha' hne b hb hb'
  exact hne ((hkey a ha b hb).symm.trans (hkey a' ha' b hb'))

namespace BitPattern

theorem position_lt (q : Qualifier) : position q < Qualifier.all.length := by
  cases q <;> decide

theorem getElem?_position (q : Qualifier) : Qualifier.all[position q]? = some q := by
  cases q <;> rfl

theorem position_get (k : Fin Qualifier.all.length) : position (Qualifier.all.get k) = k := by
  revert k
  decide

/-- Every bit of a pattern belongs to a qualifier. -/
theorem exists_position {i : ℕ} (hi : i < width) :
    ∃ q, i = 2 * position q ∨ i = 2 * position q + 1 := by
  have hk : i / 2 < Qualifier.all.length := by
    rw [width] at hi
    omega
  refine ⟨Qualifier.all.get ⟨i / 2, hk⟩, ?_⟩
  rw [position_get]
  dsimp only
  omega

/-- A pattern is known from the two sets that it describes. -/
theorem eq_of_sets_eq {m n : ℕ} (hm : m < 2 ^ width) (hn : n < 2 ^ width)
    (hp : ∀ q, onPrototype m q = onPrototype n q) (hd : ∀ q, onDefinition m q = onDefinition n q) :
    m = n := by
  apply Nat.eq_of_testBit_eq
  intro i
  by_cases hi : i < width
  · obtain ⟨q, rfl | rfl⟩ := exists_position hi
    · exact hp q
    · -- A definition tells a higher bit only together with the lower one of the same qualifier.
      have hlow : m.testBit (2 * position q) = n.testBit (2 * position q) := hp q
      have hxor := hd q
      rw [onDefinition, onDefinition, hlow] at hxor
      exact Bool.xor_right_inj.mp hxor
  · have hle : 2 ^ width ≤ 2 ^ i := Nat.pow_le_pow_right (by decide) (by omega)
    rw [Nat.testBit_lt_two_pow (by omega), Nat.testBit_lt_two_pow (by omega)]

/-- The pattern that describes the sets of words of two rows. -/
def ofSides (s : Sides) : ℕ :=
  Nat.ofBits fun i : Fin width =>
    Qualifier.all[i.val / 2]?.any fun q =>
      if i.val % 2 = 0 then s.first.has q else s.first.has q ^^ s.definition.has q

theorem ofSides_lt (s : Sides) : ofSides s < 2 ^ width :=
  Nat.ofBits_lt_two_pow _

theorem testBit_ofSides_low (s : Sides) (q : Qualifier) :
    (ofSides s).testBit (2 * position q) = s.first.has q := by
  have hlt : 2 * position q < width := by
    have := position_lt q
    rw [width]
    omega
  rw [ofSides, Nat.testBit_ofBits_lt _ _ hlt]
  simp [getElem?_position]

theorem testBit_ofSides_high (s : Sides) (q : Qualifier) :
    (ofSides s).testBit (2 * position q + 1) = (s.first.has q ^^ s.definition.has q) := by
  have hlt : 2 * position q + 1 < width := by
    have := position_lt q
    rw [width]
    omega
  have hq : (2 * position q + 1) / 2 = position q := by omega
  rw [ofSides, Nat.testBit_ofBits_lt _ _ hlt]
  simp [hq, getElem?_position]

theorem onPrototype_ofSides (s : Sides) (q : Qualifier) :
    onPrototype (ofSides s) q = s.first.has q :=
  testBit_ofSides_low s q

theorem onDefinition_ofSides (s : Sides) (q : Qualifier) :
    onDefinition (ofSides s) q = s.definition.has q := by
  rw [onDefinition, testBit_ofSides_low, testBit_ofSides_high, ← Bool.xor_assoc, Bool.xor_self,
    Bool.false_xor]

theorem mem_first_declarations {n : ℕ} {q : Qualifier} :
    q ∈ (declarations n).first ↔ onPrototype n q = true := by
  simp [declarations, Qualifier.mem_all]

theorem mem_definition_declarations {n : ℕ} {q : Qualifier} :
    q ∈ (declarations n).definition ↔ onDefinition n q = true := by
  simp [declarations, Qualifier.mem_all]

theorem first_ofSides (s : Sides) : (declarations (ofSides s)).first.SameWords s.first := by
  intro q
  rw [mem_first_declarations, onPrototype_ofSides, Qualifiers.has_iff]

theorem definition_ofSides (s : Sides) :
    (declarations (ofSides s)).definition.SameWords s.definition := by
  intro q
  rw [mem_definition_declarations, onDefinition_ofSides, Qualifiers.has_iff]

/-- Two patterns that put the same words on both sides are one. -/
theorem eq_of_sameWords {m n : ℕ} (hm : m < 2 ^ width) (hn : n < 2 ^ width)
    (hp : (declarations m).first.SameWords (declarations n).first)
    (hd : (declarations m).definition.SameWords (declarations n).definition) : m = n := by
  apply eq_of_sets_eq hm hn
  · intro q
    rw [Bool.eq_iff_iff, ← mem_first_declarations, ← mem_first_declarations]
    exact hp q
  · intro q
    rw [Bool.eq_iff_iff, ← mem_definition_declarations, ← mem_definition_declarations]
    exact hd q

theorem mem_all {n : ℕ} : n ∈ all ↔ n < 2 ^ width := by
  have hw : weight n < width + 1 := by
    have := List.countP_le_length (p := n.testBit) (l := List.range width)
    rw [List.length_range] at this
    exact Nat.lt_succ_of_le this
  simp only [all, List.mem_flatMap, List.mem_range, List.mem_filter, beq_iff_eq]
  constructor
  · rintro ⟨w, -, hn, -⟩
    exact hn
  · intro hn
    exact ⟨weight n, hw, hn, rfl⟩

theorem nodup_all : all.Nodup := by
  apply nodup_flatMap_of_key weight List.nodup_range
  · intro w _
    exact List.nodup_range.filter _
  · intro w _ n hn
    exact beq_iff_eq.mp (List.mem_filter.mp hn).2

theorem eq_of_declarations_eq {m n : ℕ} (hm : m ∈ all) (hn : n ∈ all)
    (h : declarations m = declarations n) : m = n := by
  apply eq_of_sameWords (mem_all.mp hm) (mem_all.mp hn)
  · intro q
    rw [h]
  · intro q
    rw [h]

end BitPattern

namespace Domain

/-- Without repetitions on the axes no case is repeated. -/
theorem nodup_cases {d : Domain} (hl : d.levels.Nodup) (hd : d.declarations.Nodup)
    (hc : d.compilers.Nodup) (hs : d.dialects.Nodup) : d.cases.Nodup := by
  apply nodup_flatMap_of_key Case.level hl
  · intro level _
    apply nodup_flatMap_of_key Case.declarations hd
    · intro declarations _
      apply nodup_flatMap_of_key Case.compiler hc
      · intro compiler _
        exact hs.map fun _ _ h => congrArg Case.dialect h
      · rintro compiler - c hc
        obtain ⟨dialect, -, rfl⟩ := List.mem_map.mp hc
        rfl
    · rintro declarations - c hc
      simp only [List.mem_flatMap, List.mem_map] at hc
      obtain ⟨compiler, -, dialect, -, rfl⟩ := hc
      rfl
  · rintro level - c hc
    simp only [List.mem_flatMap, List.mem_map] at hc
    obtain ⟨declarations, -, compiler, -, dialect, -, rfl⟩ := hc
    rfl

theorem nodup_cases_exhaustive : exhaustive.cases.Nodup := by
  refine nodup_cases Level.nodup_all ?_ (List.nodup_singleton _) Dialect.nodup_all
  simp only [exhaustive]
  exact BitPattern.nodup_all.map_on fun m hm n hn => BitPattern.eq_of_declarations_eq hm hn

theorem mem_cases_exhaustive {c : Case} :
    c ∈ exhaustive.cases ↔
      c.compiler = .gcc ∧
        ∃ n, n < 2 ^ BitPattern.width ∧ BitPattern.declarations n = c.declarations := by
  rw [mem_cases]
  simp only [exhaustive, List.mem_map, List.mem_singleton, BitPattern.mem_all, Level.mem_all,
    Dialect.mem_all, true_and, and_true]
  exact and_comm

end Domain

namespace Case

/-- A case with a forward declaration that stands for another: the same settings, the same words on the
definition, and on the forward declaration those of the first declaration. -/
structure Represents (r c : Case) : Prop where
  dialect : r.dialect = c.dialect
  level : r.level = c.level
  prototype : ∃ p, r.declarations.prototype = some p ∧ p.SameWords c.declarations.first
  definition : r.declarations.definition.SameWords c.declarations.definition

theorem Represents.first {r c : Case} (h : r.Represents c) :
    r.declarations.first.SameWords c.declarations.first := by
  obtain ⟨p, hp, hw⟩ := h.prototype
  rw [Declarations.first, hp]
  exact hw

/-- Cases with the same settings and the same words have the same outcome. -/
theorem predict_congr {c c' : Case} (hc : c.compiler = .gcc) (hc' : c'.compiler = .gcc)
    (hdialect : c.dialect = c'.dialect) (hlevel : c.level = c'.level)
    (hfirst : c.declarations.first.SameWords c'.declarations.first)
    (hdefinition : c.declarations.definition.SameWords c'.declarations.definition) :
    c.predict = c'.predict := by
  rw [predict_of_gcc hc, predict_of_gcc hc', outcome, outcome, ← hdialect, ← hlevel]
  exact congrArg _ (Sides.outcome_congr hfirst hdefinition c.dialect c.level)

/-- The case of the exhaustive domain that stands for a case. -/
def representative (c : Case) : Case :=
  { c with declarations := BitPattern.declarations (BitPattern.ofSides c.sides) }

theorem representative_represents (c : Case) : c.representative.Represents c where
  dialect := rfl
  level := rfl
  prototype := ⟨_, rfl, BitPattern.first_ofSides c.sides⟩
  definition := BitPattern.definition_ofSides c.sides

theorem representative_mem {c : Case} (hc : c.compiler = .gcc) :
    c.representative ∈ Domain.exhaustive.cases :=
  Domain.mem_cases_exhaustive.mpr ⟨hc, _, BitPattern.ofSides_lt _, rfl⟩

/-- No other case of the exhaustive domain stands for it. -/
theorem Represents.eq_representative {r c : Case} (h : r.Represents c) (hc : c.compiler = .gcc)
    (hr : r ∈ Domain.exhaustive.cases) : r = c.representative := by
  obtain ⟨declarations, compiler, dialect, level⟩ := r
  obtain ⟨hcompiler, n, hn, hdecl⟩ := Domain.mem_cases_exhaustive.mp hr
  have hpattern : n = BitPattern.ofSides c.sides := by
    apply BitPattern.eq_of_sameWords hn (BitPattern.ofSides_lt _)
    · rw [hdecl]
      exact h.first.trans (BitPattern.first_ofSides c.sides).symm
    · rw [hdecl]
      exact h.definition.trans (BitPattern.definition_ofSides c.sides).symm
  rw [representative, ← hpattern, hdecl, hc, ← h.dialect, ← h.level]
  exact congrArg (fun k => Case.mk declarations k dialect level) hcompiler

/-- Every case for gcc is represented in the exhaustive domain, at one index only, and has the outcome of
its representative. The order and the repetitions of words do not count, and without a forward
declaration the outcome is that with any one that has the words of the definition. -/
theorem exhaustive_represents {c : Case} (hc : c.compiler = .gcc) :
    (∃! i : ℕ, ∃ r : Case, Domain.exhaustive.cases[i]? = some r ∧ r.Represents c) ∧
      (∀ r ∈ Domain.exhaustive.cases, r.Represents c →
        ∃ o, r.predict = .ok o ∧ c.predict = .ok o) ∧
      (∀ c' : Case, c'.compiler = .gcc → c'.dialect = c.dialect → c'.level = c.level →
        c'.declarations.first.SameWords c.declarations.first →
        c'.declarations.definition.SameWords c.declarations.definition → c'.predict = c.predict) ∧
      ∀ p d : Qualifiers, p.SameWords d →
        ({ c with declarations := ⟨some p, d⟩ } : Case).predict =
          ({ c with declarations := .definitionOnly d } : Case).predict := by
  refine ⟨?_, ?_, ?_, ?_⟩
  · obtain ⟨i, hi⟩ := List.mem_iff_getElem?.mp (representative_mem hc)
    refine ⟨i, ⟨_, hi, representative_represents c⟩, ?_⟩
    rintro j ⟨r, hj, hr⟩
    obtain rfl := hr.eq_representative hc (List.mem_of_getElem? hj)
    obtain ⟨hlt, -⟩ := List.getElem?_eq_some_iff.mp hj
    exact (List.getElem?_inj hlt Domain.nodup_cases_exhaustive).mp (hj.trans hi.symm)
  · intro r hr h
    have hcompiler := (Domain.mem_cases_exhaustive.mp hr).1
    refine ⟨c.outcome, ?_, predict_of_gcc hc⟩
    rw [← predict_of_gcc hc]
    exact predict_congr hcompiler hc h.dialect h.level h.first h.definition
  · intro c' hc' hdialect hlevel hfirst hdefinition
    exact predict_congr hc' hc hdialect hlevel hfirst hdefinition
  · intro p d h
    exact predict_congr hc hc rfl rfl h fun _ => Iff.rfl

/-- A definition alone, with a repeated word. -/
theorem exhaustive_represents_definitionOnly :
    let c : Case :=
      ⟨.definitionOnly [.externStorage, .inlineKeyword, .externStorage], .gcc, .gnu99, .o1⟩
    c.compiler = .gcc ∧
      (∃! i : ℕ, ∃ r : Case, Domain.exhaustive.cases[i]? = some r ∧ r.Represents c) ∧
      c.predict = .ok ⟨.diagnostic .multipleDefinition, .none⟩ := by
  intro c
  exact ⟨rfl, (exhaustive_represents (c := c) rfl).1, by decide⟩

end Case

end InlineLinkage
