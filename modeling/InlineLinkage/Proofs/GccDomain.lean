import InlineLinkage.OutcomeDigest
import Mathlib.Tactic

/-!
# Domains for one compiler

There are rules for gcc only. In a domain whose compilers are all gcc every case has an outcome, and
taking the outcomes into a digest never fails. The cases are as many as the axes promise.
-/
namespace InlineLinkage

namespace Case

/-- The outcome by the rules, whatever the compiler. -/
def outcome (c : Case) : Outcome :=
  c.sides.outcome c.dialect c.level

theorem predict_of_gcc {c : Case} (hc : c.compiler = .gcc) : c.predict = .ok c.outcome := by
  simp only [predict, hc, outcome]

end Case

namespace Domain

/-- All compilers are the one that has rules. -/
def ForGcc (d : Domain) : Prop :=
  ∀ k ∈ d.compilers, k = Compiler.gcc

instance (d : Domain) : Decidable d.ForGcc :=
  inferInstanceAs (Decidable (∀ k ∈ d.compilers, k = Compiler.gcc))

theorem mem_cases {d : Domain} {c : Case} :
    c ∈ d.cases ↔ c.level ∈ d.levels ∧ c.declarations ∈ d.declarations ∧
      c.compiler ∈ d.compilers ∧ c.dialect ∈ d.dialects := by
  simp only [cases, List.mem_flatMap, List.mem_map]
  constructor
  · rintro ⟨level, hl, declarations, hd, compiler, hk, dialect, hs, rfl⟩
    exact ⟨hl, hd, hk, hs⟩
  · rintro ⟨hl, hd, hk, hs⟩
    exact ⟨c.level, hl, c.declarations, hd, c.compiler, hk, c.dialect, hs, rfl⟩

theorem ForGcc.compiler_eq {d : Domain} (hd : d.ForGcc) : ∀ c ∈ d.cases, c.compiler = .gcc :=
  fun c hc => hd c.compiler (mem_cases.mp hc).2.2.1

@[simp] theorem length_cases (d : Domain) : d.cases.length = d.caseCount := by
  simp only [cases, caseCount, List.length_flatMap, List.length_map, List.map_const',
    List.sum_replicate, smul_eq_mul]
  ring

theorem lt_caseCount_of_getElem? {d : Domain} {n : ℕ} {c : Case} (hc : d.cases[n]? = some c) :
    n < d.caseCount := by
  obtain ⟨hlt, -⟩ := List.getElem?_eq_some_iff.mp hc
  rwa [length_cases] at hlt

theorem length_take_drop_cases {d : Domain} {n m : ℕ} (h : n + m ≤ d.caseCount) :
    ((d.cases.drop n).take m).length = m := by
  rw [List.length_take, List.length_drop, length_cases]
  omega

theorem getElem?_take_drop_cases (d : Domain) (n : ℕ) {m k : ℕ} (hk : k < m) :
    ((d.cases.drop n).take m)[k]? = d.cases[n + k]? := by
  rw [List.getElem?_take_of_lt hk, List.getElem?_drop]

/-- The outcomes of the cases that stand before a position. -/
def outcomesBefore (d : Domain) (n : ℕ) : List Outcome :=
  (d.cases.take n).map Case.outcome

theorem length_outcomesBefore {d : Domain} {n : ℕ} (hn : n ≤ d.caseCount) :
    (d.outcomesBefore n).length = n := by
  simp only [outcomesBefore, List.length_map, List.length_take, length_cases]
  omega

theorem outcomesBefore_add (d : Domain) (n m : ℕ) :
    d.outcomesBefore (n + m) = d.outcomesBefore n ++ ((d.cases.drop n).take m).map Case.outcome := by
  simp only [outcomesBefore, List.take_add, List.map_append]

/-- A domain of two cases. -/
def pair : Domain :=
  ⟨[.o0], [.symmetric [.staticStorage], .symmetric []], [.gcc], [.gnu99]⟩

end Domain

end InlineLinkage
