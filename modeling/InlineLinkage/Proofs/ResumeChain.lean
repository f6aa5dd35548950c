import InlineLinkage.Proofs.TokenGate

/-!
# Chains of resumed runs

After a failure a run can be resumed behind the case that failed. With an executor whose answers depend
on the scripts alone, such a chain of runs does together what one run without failures would do: every
case is executed once and in order, and the failures that are reported are just those that there are.
-/
namespace InlineLinkage

variable {σ ε : Type}

namespace Executor

/-- The answers depend on the scripts alone, whatever the state. -/
def Answers (x : Executor σ ε) (answer : BuildScript → Except ε Captured) : Prop :=
  ∀ s b, (x.execute s b).1 = answer b

theorem Answers.answerAfter_eq {x : Executor σ ε} {answer : BuildScript → Except ε Captured}
    (hx : x.Answers answer) (drivers : Drivers) (s : σ) (cs : List Case) (c : Case) :
    x.answerAfter drivers s cs c = answer (.ofCase c drivers) :=
  hx _ _

/-- Gives the same output for every script. -/
def steady : Executor Unit Empty :=
  ⟨fun s _ => (.ok ⟨"1\n2\n", "", some 0, false⟩, s)⟩

theorem answers_steady : steady.Answers fun _ => .ok ⟨"1\n2\n", "", some 0, false⟩ := by
  intro s b
  rfl

/-- The case is run and its prediction holds. -/
def passes (x : Executor σ ε) (drivers : Drivers) (s : σ) (c : Case) : Bool :=
  match (x.runCase drivers c s).1 with
  | .ok r => r.passed
  | .error _ => false

theorem Answers.passes_iff {x : Executor σ ε} {answer : BuildScript → Except ε Captured}
    (hx : x.Answers answer) (drivers : Drivers) (s : σ) {c : Case} (hc : c.compiler = .gcc) :
    x.passes drivers s c = true ↔ Passes (answer (.ofCase c drivers)) c := by
  rw [← hx s (.ofCase c drivers), passes, runCase_of_gcc x drivers s hc]
  cases x.execute s (.ofCase c drivers) with
  | mk a t =>
    cases a with
    | error e => simp [Passes]
    | ok captured => simp [Passes, CaseRun.ofCaptured, CaseRun.passed]

end Executor

/-- The failure that a run reports. -/
def RunResult.failure? : RunResult ε → Option CaseFailure
  | .failed f => some f
  | _ => none

namespace Runner

section Chain

variable (x : Executor σ ε) (drivers : Drivers) (d : Domain)

/-- Runs of a domain, each resumed behind the failure of the run before it, up to one without a
failure. -/
inductive Chain : Option ResumeToken → σ → List (Transcript σ ε) → Prop
  | last {resume : Option ResumeToken} {s : σ}
      (h : (run x drivers d resume s).result.failure? = none) :
      Chain resume s [run x drivers d resume s]
  | next {resume : Option ResumeToken} {s : σ} {f : CaseFailure} {ts : List (Transcript σ ε)}
      (h : (run x drivers d resume s).result = .failed f)
      (rest : Chain (some f.skipPast) (run x drivers d resume s).state ts) :
      Chain resume s (run x drivers d resume s :: ts)

/-- The positions of the failures that runs report. -/
def failureIndices (ts : List (Transcript σ ε)) : List ℕ :=
  ts.filterMap fun t => t.result.failure?.map CaseFailure.index

/-- The case at a position does not pass. -/
def failsAt (s : σ) (i : ℕ) : Bool :=
  d.cases[i]?.any fun c => !x.passes drivers s c

/-- The runs cover the cases from the position `n` on. -/
structure Covers (n : ℕ) (s : σ) (ts : List (Transcript σ ε)) : Prop where
  /-- No token on the way is rejected. -/
  accepted : ∀ t ∈ ts, ¬ t.RejectsToken
  /-- The failures are all those that there are, in order. -/
  failures : failureIndices ts =
    (List.range' n (d.caseCount - n)).filter (failsAt x drivers d s)
  /-- Every case is announced and executed once, and in order. -/
  events : ts.flatMap Transcript.events = caseEvents drivers n (d.cases.drop n)
  /-- All runs but the last fail, and the last gives the digest of all outcomes. -/
  ending : ∃ failed t report, ts = failed ++ [t] ∧ (∀ r ∈ failed, ∃ f, r.result = .failed f) ∧
    t.result = .finished report ∧
    report.digest = String.ofList (Outcome.hashChars (d.cases.map Case.outcome))

end Chain

theorem filter_range'_eq_nil {p : ℕ → Bool} {n m : ℕ} (h : ∀ k < m, p (n + k) = false) :
    (List.range' n m).filter p = [] := by
  rw [List.filter_eq_nil_iff]
  intro i hi
  obtain ⟨k, hk, rfl⟩ := List.mem_range'.mp hi
  simp [h k hk]

/-- Up to the first position with a property, nothing of a range has it. -/
theorem filter_range'_of_first {p : ℕ → Bool} {n m N : ℕ} (hN : n + m < N)
    (hbefore : ∀ k < m, p (n + k) = false) (hat : p (n + m) = true) :
    (List.range' n (N - n)).filter p =
      (n + m) :: (List.range' (n + m + 1) (N - (n + m + 1))).filter p := by
  have hsplit : List.range' n (N - n) =
      List.range' n m ++ (n + m) :: List.range' (n + m + 1) (N - (n + m + 1)) := by
    rw [← List.range'_succ, List.range'_append_1]
    congr 1
    omega
  rw [hsplit, List.filter_append, filter_range'_eq_nil hbefore, List.filter_cons_of_pos hat, List.nil_append]

section

variable {x : Executor σ ε} {drivers : Drivers} {d : Domain} {s s₀ : σ} {n m : ℕ}

section

variable {answer : BuildScript → Except ε Captured}

theorem failsAt_of_allPass (hd : d.ForGcc) (hx : x.Answers answer)
    (hm : x.AllPass drivers s ((d.cases.drop n).take m)) (s₀ : σ) {k : ℕ} (hk : k < m) :
    failsAt x drivers d s₀ (n + k) = false := by
  rw [failsAt]
  cases hc : d.cases[n + k]? with
  | none => rfl
  | some c =>
    have hkc : ((d.cases.drop n).take m)[k]? = some c := by
      rw [d.getElem?_take_drop_cases n hk, hc]
    have hp := hm k c hkc
    rw [hx.answerAfter_eq] at hp
    have hpass := (hx.passes_iff drivers s₀ (hd.compiler_eq c (List.mem_of_getElem? hc))).mpr hp
    simp [hpass]

theorem failsAt_of_answer (hd : d.ForGcc) (hx : x.Answers answer) {c : Case} {captured : Captured}
    (hc : d.cases[n]? = some c) (ha : answer (.ofCase c drivers) = .ok captured)
    (hv : c.outcome.verify captured ≠ []) : failsAt x drivers d s₀ n = true := by
  have hpass := hx.passes_iff drivers s₀ (hd.compiler_eq c (List.mem_of_getElem? hc))
  simpa [failsAt, hc, Executor.Passes, ha, hv] using hpass

end

variable {answer : BuildScript → Captured}

/-- A run in a chain, in terms of positions: all cases from its start on pass, or it fails at the first
that does not. -/
theorem run_cases (hd : d.ForGcc) (hx : x.Answers fun b => .ok (answer b)) (drivers : Drivers)
    {resume : Option ResumeToken} (ha : d.Accepts resume) (s s₀ : σ)
    (hn : resume.elim 0 ResumeToken.index = n) :
    (∃ m, n + m = d.caseCount ∧ (∀ k < m, failsAt x drivers d s₀ (n + k) = false) ∧
      (run x drivers d resume s).events = caseEvents drivers n (d.cases.drop n) ∧
      (run x drivers d resume s).result = .finished
        ⟨d.caseCount, n, d.caseCount - n, String.ofList (d.hashBefore d.caseCount)⟩) ∨
    ∃ m f, n + m < d.caseCount ∧ (∀ k < m, failsAt x drivers d s₀ (n + k) = false) ∧
      failsAt x drivers d s₀ (n + m) = true ∧
      (run x drivers d resume s).events =
        caseEvents drivers n ((d.cases.drop n).take (m + 1)) ∧
      (run x drivers d resume s).result = .failed f ∧ f.index = n + m ∧
      f.skipPast = d.tokenAt (n + m + 1) := by
  subst hn
  obtain ⟨m, hm, hend⟩ := exists_ending_run hd x drivers ha s
  have hpass (k : ℕ) (hk : k < m) := failsAt_of_allPass hd hx hm s₀ hk
  generalize run x drivers d resume s = t at hend
  cases hend with
  | finished hlast => exact .inl ⟨m, hlast, hpass, rfl, rfl⟩
  | stopped _ he =>
    -- The executor answers all scripts, so it has no error.
    rw [hx.answerAfter_eq] at he
    cases he
  | failed hc hans hv =>
    have hlt := Domain.lt_caseCount_of_getElem? hc
    rw [hx.answerAfter_eq] at hans
    exact .inr ⟨m, _, hlt, hpass, failsAt_of_answer hd hx hc hans hv, rfl, rfl, rfl, rfl⟩

/-- The runs from a position on come to an end. -/
theorem exists_chain (hd : d.ForGcc) (hx : x.Answers fun b => .ok (answer b))
    {resume : Option ResumeToken} (ha : d.Accepts resume) (s : σ) :
    ∃ ts, Chain x drivers d resume s ts := by
  induction h : d.caseCount - resume.elim 0 ResumeToken.index using Nat.strong_induction_on
    generalizing resume s with
  | _ left ih =>
    obtain ⟨m, -, -, -, hr⟩ | ⟨m, f, hlt, -, -, -, hr, -, hskip⟩ :=
      run_cases hd hx drivers ha s s rfl
    · exact ⟨_, .last (by rw [hr]; rfl)⟩
    · -- The next run starts behind the case that failed, so fewer cases are left to it.
      have ha' : d.Accepts (some f.skipPast) := hskip ▸ Domain.accepts_tokenAt hlt
      have hleft : d.caseCount - f.skipPast.index < left := by
        rw [hskip, ← h]
        simp only [Domain.tokenAt]
        omega
      obtain ⟨ts, hts⟩ := ih _ hleft ha' (run x drivers d resume s).state rfl
      exact ⟨_, .next hr hts⟩

theorem covers_of_finished {t : Transcript σ ε} (hok : ¬ t.RejectsToken) (hm : n + m = d.caseCount)
    (hpass : ∀ k < m, failsAt x drivers d s (n + k) = false)
    (hev : t.events = caseEvents drivers n (d.cases.drop n))
    (hr : t.result = .finished
      ⟨d.caseCount, n, d.caseCount - n, String.ofList (d.hashBefore d.caseCount)⟩) :
    Covers x drivers d n s [t] where
  accepted := by
    intro r hr
    obtain rfl := List.mem_singleton.mp hr
    exact hok
  failures := by
    have hleft : d.caseCount - n = m := by omega
    rw [hleft, filter_range'_eq_nil hpass, failureIndices, List.filterMap_cons, hr]
    rfl
  events := by rw [List.flatMap_singleton, hev]
  ending := by
    refine ⟨[], t, _, rfl, by simp, hr, ?_⟩
    simp only [Domain.hashBefore, Domain.outcomesBefore, ← Domain.length_cases, List.take_length]

/-- A failed run before a chain that starts behind its failure. -/
theorem Covers.cons {t : Transcript σ ε} {f : CaseFailure} {ts : List (Transcript σ ε)}
    (h : Covers x drivers d (n + m + 1) s ts) (hok : ¬ t.RejectsToken)
    (hlt : n + m < d.caseCount) (hpass : ∀ k < m, failsAt x drivers d s (n + k) = false)
    (hfail : failsAt x drivers d s (n + m) = true)
    (hev : t.events = caseEvents drivers n ((d.cases.drop n).take (m + 1)))
    (hr : t.result = .failed f) (hf : f.index = n + m) :
    Covers x drivers d n s (t :: ts) where
  accepted := by
    intro r hr
    obtain rfl | hr := List.mem_cons.mp hr
    · exact hok
    · exact h.accepted r hr
  failures := by
    rw [filter_range'_of_first hlt hpass hfail, ← h.failures, failureIndices,
      List.filterMap_cons, hr, ← hf]
    rfl
  events := by
    have hlen : ((d.cases.drop n).take (m + 1)).length = m + 1 := Domain.length_take_drop_cases hlt
    have hsplit := caseEvents_append drivers n ((d.cases.drop n).take (m + 1))
      ((d.cases.drop n).drop (m + 1))
    rw [List.take_append_drop, hlen, List.drop_drop] at hsplit
    rw [List.flatMap_cons, hev, h.events, hsplit]
    rfl
  ending := by
    obtain ⟨failed, last, report, hts, hall, hlast, hdig⟩ := h.ending
    refine ⟨t :: failed, last, report, by rw [hts]; rfl, ?_, hlast, hdig⟩
    intro r hmem
    obtain rfl | hmem := List.mem_cons.mp hmem
    · exact ⟨f, hr⟩
    · exact hall r hmem

/-- The runs of a chain cover all cases from the position of its token on. -/
theorem covers_of_chain (hd : d.ForGcc) (hx : x.Answers fun b => .ok (answer b))
    {resume : Option ResumeToken} {ts : List (Transcript σ ε)}
    (hts : Chain x drivers d resume s ts) (ha : d.Accepts resume) (s₀ : σ) :
    Covers x drivers d (resume.elim 0 ResumeToken.index) s₀ ts := by
  induction hts with
  | @last resume s hnone =>
    have hok := not_rejectsToken_of_accepts hd x drivers ha s
    obtain ⟨m, hm, hpass, hev, hr⟩ | ⟨m, f, -, -, -, -, hr, -, -⟩ :=
      run_cases hd hx drivers ha s s₀ rfl
    · exact covers_of_finished hok hm hpass hev hr
    · rw [hr] at hnone
      cases hnone
  | @next resume s f ts hf hrest ih =>
    have hok := not_rejectsToken_of_accepts hd x drivers ha s
    obtain ⟨m, -, -, -, hr⟩ | ⟨m, f', hlt, hpass, hfail, hev, hr, hindex, hskip⟩ :=
      run_cases hd hx drivers ha s s₀ rfl
    · rw [hr] at hf
      cases hf
    · rw [hr] at hf
      cases hf
      have hrest' := ih (hskip ▸ Domain.accepts_tokenAt hlt)
      rw [hskip] at hrest'
      exact Covers.cons hrest' hok hlt hpass hfail hev hr hindex

end

/-- Resuming behind every failure loses no case and repeats none. The chain of runs comes to an end,
reports just the cases that do not pass, and the last run reports the digest of the domain. -/
theorem chain_covers_domain {d : Domain} (hd : d.ForGcc) {x : Executor σ ε}
    {answer : BuildScript → Captured} (hx : x.Answers fun b => .ok (answer b)) (drivers : Drivers)
    (s : σ) :
    (∃ ts, Chain x drivers d none s ts) ∧
    ∀ ts, Chain x drivers d none s ts →
      Covers x drivers d 0 s ts ∧
      (failureIndices ts).Pairwise (· < ·) ∧
      ts.flatMap Transcript.scripts = d.cases.map (BuildScript.ofCase · drivers) := by
  refine ⟨exists_chain hd hx d.accepts_none s, ?_⟩
  intro ts hts
  have hcov := covers_of_chain hd hx hts d.accepts_none s
  refine ⟨hcov, ?_, ?_⟩
  · rw [hcov.failures]
    exact List.Pairwise.filter _ (List.pairwise_lt_range' ..)
  · have hev := congrArg (List.filterMap Event.script?) hcov.events
    rw [filterMap_script_caseEvents, List.filterMap_flatMap] at hev
    exact hev

/-- The last case of two fails, and a run behind it ends the chain. -/
theorem chain_covers_pair :
    Domain.pair.ForGcc ∧
      (Executor.steady.Answers fun _ => .ok ⟨"1\n2\n", "", some 0, false⟩) ∧
      ∃ ts, Chain Executor.steady {} Domain.pair none () ts ∧ failureIndices ts = [1] := by
  have hd : Domain.pair.ForGcc := by decide
  obtain ⟨⟨ts, hts⟩, hall⟩ := chain_covers_domain hd Executor.answers_steady {} ()
  refine ⟨hd, Executor.answers_steady, ts, hts, ?_⟩
  rw [(hall ts hts).1.failures]
  decide

end Runner

end InlineLinkage
