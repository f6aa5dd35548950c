import InlineLinkage.Proofs.ExhaustiveDomain
import InlineLinkage.Proofs.GccDomain

/-!
# Cases by their positions

The position of a case is a number in mixed radix whose digits are the places of its parts on the axes: the
level is the first digit and the dialect the last. So a case is found without listing those before it, and
on axes without repetitions a position and a case determine each other.
-/
namespace InlineLinkage

/-- In rows of one length an element is found by its row and its place in the row. -/
theorem getElem?_flatMap_of_length {α β : Type} {l : List α} {f : α → List β} {k : ℕ}
    (hf : ∀ a ∈ l, (f a).length = k) (i : ℕ) :
    (l.flatMap f)[i]? = l[i / k]?.bind fun a => (f a)[i % k]? := by
  obtain rfl | hk := Nat.eq_zero_or_pos k
  · -- Empty rows hold nothing, whichever of them is asked.
    have hnil : l.flatMap f = [] :=
      List.flatMap_eq_nil_iff.mpr fun a ha => List.length_eq_zero_iff.mp (hf a ha)
    rw [hnil, List.getElem?_nil, eq_comm, Option.bind_eq_none_iff]
    intro a ha
    rw [List.length_eq_zero_iff.mp (hf a (List.mem_of_getElem? ha)), List.getElem?_nil]
  · induction l generalizing i with
    | nil => rfl
    | cons a l ih =>
      obtain ⟨ha, hl⟩ := List.forall_mem_cons.mp hf
      rw [List.flatMap_cons]
      by_cases hi : i < k
      · rw [List.getElem?_append_left (by rwa [ha]), Nat.div_eq_of_lt hi, Nat.mod_eq_of_lt hi]
        rfl
      · obtain ⟨j, rfl⟩ : ∃ j, i = j + k := ⟨i - k, by omega⟩
        rw [List.getElem?_append_right (by omega), ha, Nat.add_sub_cancel, ih hl,
          Nat.add_div_right j hk, Nat.add_mod_right, List.getElem?_cons_succ]

namespace Domain

/-- The case whose parts stand at the digits of a position. -/
def caseAt? (d : Domain) (i : ℕ) : Option Case :=
  let n := d.declarations.length
  let c := d.compilers.length
  let l := d.dialects.length
  d.levels[i / (n * c * l)]?.bind fun level =>
    d.declarations[i / (c * l) % n]?.bind fun declarations =>
      d.compilers[i / l % c]?.bind fun compiler =>
        d.dialects[i % l]?.map fun dialect => ⟨declarations, compiler, dialect, level⟩

theorem getElem?_cases (d : Domain) (i : ℕ) : d.cases[i]? = d.caseAt? i := by
  have hrow (level : Level) (declarations : Declarations) (compiler : Compiler) :
      (d.dialects.map fun dialect => (⟨declarations, compiler, dialect, level⟩ : Case)).length =
        d.dialects.length := List.length_map _
  have hblock (level : Level) (declarations : Declarations) :
      (d.compilers.flatMap fun compiler =>
        d.dialects.map fun dialect => (⟨declarations, compiler, dialect, level⟩ : Case)).length =
        d.compilers.length * d.dialects.length := by
    simp only [List.length_flatMap, hrow, List.map_const', List.sum_replicate, smul_eq_mul]
  have hlevel (level : Level) :
      (d.declarations.flatMap fun declarations => d.compilers.flatMap fun compiler =>
        d.dialects.map fun dialect => (⟨declarations, compiler, dialect, level⟩ : Case)).length =
        d.declarations.length * (d.compilers.length * d.dialects.length) := by
    simp only [List.length_flatMap, hblock, List.map_const', List.sum_replicate, smul_eq_mul]
  rw [cases, getElem?_flatMap_of_length fun level _ => hlevel level]
  simp only [caseAt?, getElem?_flatMap_of_length fun declarations _ => hblock _ declarations,
    getElem?_flatMap_of_length fun compiler _ => hrow _ _ compiler, List.getElem?_map,
    Nat.mod_mul_left_div_self, Nat.mod_mul_left_mod, Nat.mul_assoc]

/-- A position below the number of cases has a digit for each axis. -/
theorem exists_digits {d : Domain} {i : ℕ} (hi : i < d.caseCount) :
    ∃ level declarations compiler dialect,
      d.levels[i / (d.declarations.length * d.compilers.length * d.dialects.length)]? = some level ∧
      d.declarations[i / (d.compilers.length * d.dialects.length) % d.declarations.length]? =
        some declarations ∧
      d.compilers[i / d.dialects.length % d.compilers.length]? = some compiler ∧
      d.dialects[i % d.dialects.length]? = some dialect ∧
      d.cases[i]? = some ⟨declarations, compiler, dialect, level⟩ := by
  have hlt : i < d.cases.length := by rwa [length_cases]
  have hcase := List.getElem?_eq_getElem hlt
  rw [getElem?_cases] at hcase ⊢
  simp only [caseAt?, Option.bind_eq_some_iff, Option.map_eq_some_iff] at hcase
  obtain ⟨level, hlevel, declarations, hdeclarations, compiler, hcompiler, dialect, hdialect, -⟩ := hcase
  refine ⟨level, declarations, compiler, dialect, hlevel, hdeclarations, hcompiler, hdialect, ?_⟩
  simp only [caseAt?, hlevel, hdeclarations, hcompiler, hdialect, Option.bind_some, Option.map_some]

theorem position_unique {d : Domain} (hd : d.cases.Nodup) {i j : ℕ} {c : Case}
    (hi : d.cases[i]? = some c) (hj : d.cases[j]? = some c) : i = j := by
  obtain ⟨hlt, -⟩ := List.getElem?_eq_some_iff.mp hi
  exact (List.getElem?_inj hlt hd).mp (hi.trans hj.symm)

/-- A domain has as many cases as the product of the lengths of its axes. The digits of a position, in
mixed radix with the level first and the dialect last, are the places of the parts of its case. Every
combination of parts has a position, and only one if no axis repeats an element. -/
theorem cases_in_mixed_radix (d : Domain) :
    let o := d.levels.length
    let n := d.declarations.length
    let c := d.compilers.length
    let l := d.dialects.length
    d.cases.length = d.caseCount ∧ d.caseCount = o * n * c * l ∧
      (∀ i < d.caseCount, ∃ level declarations compiler dialect,
        d.levels[i / (n * c * l)]? = some level ∧
        d.declarations[i / (c * l) % n]? = some declarations ∧
        d.compilers[i / l % c]? = some compiler ∧
        d.dialects[i % l]? = some dialect ∧
        d.cases[i]? = some ⟨declarations, compiler, dialect, level⟩) ∧
      (d.levels.Nodup → d.declarations.Nodup → d.compilers.Nodup → d.dialects.Nodup →
        ∀ (i j : ℕ) (x : Case), d.cases[i]? = some x → d.cases[j]? = some x → i = j) ∧
      ∀ level ∈ d.levels, ∀ declarations ∈ d.declarations, ∀ compiler ∈ d.compilers,
        ∀ dialect ∈ d.dialects,
          ∃ i < d.caseCount, d.cases[i]? = some ⟨declarations, compiler, dialect, level⟩ := by
  intro o n c l
  refine ⟨length_cases d, ?_, fun i hi => exists_digits hi, fun hl hd hc hs i j x hi hj => ?_,
    fun level hl declarations hd compiler hc dialect hs => ?_⟩
  · rw [caseCount]
    ring
  · exact position_unique (nodup_cases hl hd hc hs) hi hj
  · have hmem : (⟨declarations, compiler, dialect, level⟩ : Case) ∈ d.cases :=
      mem_cases.mpr ⟨hl, hd, hc, hs⟩
    obtain ⟨i, hi⟩ := List.mem_iff_getElem?.mp hmem
    exact ⟨i, lt_caseCount_of_getElem? hi, hi⟩

/-- In the minimal domain the level changes after all declarations have been through all dialects. -/
theorem cases_in_mixed_radix_minimal :
    117 < minimal.caseCount ∧ minimal.cases[117]? = some ⟨.symmetric [], .gcc, .gnu89, .o1⟩ ∧
      (minimal.levels.Nodup ∧ minimal.declarations.Nodup ∧ minimal.compilers.Nodup ∧
        minimal.dialects.Nodup) ∧
      ∀ i, minimal.cases[i]? = some ⟨.symmetric [], .gcc, .gnu89, .o1⟩ → i = 117 := by
  have hlt : 117 < minimal.caseCount := by decide
  obtain ⟨-, -, hdigits, hunique, -⟩ := cases_in_mixed_radix minimal
  have hcase : minimal.cases[117]? = some ⟨.symmetric [], .gcc, .gnu89, .o1⟩ := by
    obtain ⟨level, declarations, compiler, dialect, hl, hd, hc, hs, hcase⟩ := hdigits 117 hlt
    cases hl
    cases hd
    cases hc
    cases hs
    exact hcase
  have hnodup : minimal.levels.Nodup ∧ minimal.declarations.Nodup ∧ minimal.compilers.Nodup ∧
      minimal.dialects.Nodup := by decide
  obtain ⟨hl, hd, hc, hs⟩ := hnodup
  exact ⟨hlt, hcase, ⟨hl, hd, hc, hs⟩, fun i hi => hunique hl hd hc hs i 117 _ hi hcase⟩

end Domain

end InlineLinkage
