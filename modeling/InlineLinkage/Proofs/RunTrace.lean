import InlineLinkage.Proofs.Walks

/-!
# The trace of a run

A run that accepts its token does exactly this: from the position in the token on it announces each case
and gives it to the executor, up to the first case that does not pass or to the end of the domain. The
executor may remember all it was asked, so whether a case passes is said of the executor as the cases
before left it.
-/
namespace InlineLinkage

variable {σ ε : Type}

namespace Domain

/-- The token lies in the domain, and the digits that it holds start the hash of the outcomes before
it. -/
def AcceptsToken (d : Domain) (t : ResumeToken) : Prop :=
  t.index ≤ d.caseCount ∧ ∀ p, t.digestStart = some p → p.toList <+: d.hashBefore t.index

/-- No token, or one that fits. -/
def Accepts (d : Domain) (resume : Option ResumeToken) : Prop :=
  ∀ t, resume = some t → d.AcceptsToken t

theorem accepts_none (d : Domain) : d.Accepts none := by
  intro t ht
  cases ht

theorem accepts_some {d : Domain} {t : ResumeToken} : d.Accepts (some t) ↔ d.AcceptsToken t := by
  constructor
  · intro h
    exact h t rfl
  · rintro h _ ⟨⟩
    exact h

/-- The tokens that runs print are accepted. -/
theorem accepts_tokenAt {d : Domain} {n : ℕ} (hn : n ≤ d.caseCount) :
    d.Accepts (some (d.tokenAt n)) := by
  refine accepts_some.mpr ⟨hn, ?_⟩
  rintro p hp
  simp only [tokenAt, Option.some.injEq] at hp
  subst hp
  rw [String.toList_ofList]
  exact List.take_prefix 8 _

theorem Accepts.index_le {d : Domain} {resume : Option ResumeToken} (h : d.Accepts resume) :
    resume.elim 0 ResumeToken.index ≤ d.caseCount := by
  cases resume with
  | none => exact Nat.zero_le _
  | some t => exact (h t rfl).1

end Domain

namespace Runner

theorem checkDigest_of_prefix {expected : Option String} {d : OutcomeDigest}
    (h : ∀ p, expected = some p → p.toList <+: d.chars) :
    checkDigest (ε := ε) expected d = .ok () := by
  cases expected with
  | none => rfl
  | some p => rw [checkDigest, if_pos (List.isPrefixOf_iff_prefix.mpr (h p rfl))]

theorem checkDigest_of_not_prefix {p : String} {d : OutcomeDigest} (h : ¬ p.toList <+: d.chars) :
    checkDigest (ε := ε) (some p) d =
      .error (.digestMismatch d.folded p (d.start p.utf8ByteSize)) := by
  rw [checkDigest, if_neg (fun hp => h (List.isPrefixOf_iff_prefix.mp hp))]

/-- The walk that has skipped all it is to skip and must compare the digest now. -/
def comparing (d : Domain) (n : ℕ) (s : σ) : Walk σ :=
  ⟨.skipping 0, n, d.digestBefore n, 0, [], s⟩

/-- The walk that starts to execute at a position. -/
def executing (d : Domain) (n : ℕ) (s : σ) : Walk σ :=
  ⟨.running, n, d.digestBefore n, 0, [], s⟩

/-- Skipping reaches the comparison with nothing done. -/
theorem reaches_comparing {d : Domain} (hd : d.ForGcc) {t : ResumeToken}
    (ht : t.index ≤ d.caseCount) (u : Walk.Setup σ ε) (s : σ) :
    Walk.Reaches u (firstWalk (some t) s) d.cases (comparing d t.index s)
      (d.cases.drop t.index) := by
  have hlen : (d.cases.take t.index).length = t.index := by
    rw [List.length_take, Domain.length_cases, Nat.min_eq_left ht]
  have hw : (firstWalk (some t) s).phase = .skipping (0 + (d.cases.take t.index).length) := by
    rw [hlen, Nat.zero_add]
    rfl
  have hr := Walk.reaches_skipAll (u := u) hw
    (fun c hc => hd.compiler_eq c (List.mem_of_mem_take hc)) (d.cases.drop t.index)
  rw [List.take_append_drop] at hr
  have he : (firstWalk (some t) s).skipAll 0 (d.cases.take t.index) = comparing d t.index s := by
    simp only [Walk.skipAll, firstWalk, comparing, hlen, Nat.zero_add]
    rfl
  rw [← he]
  exact hr

/-- After the comparison the walk is one that executes. -/
theorem run_of_next {u : Walk.Setup σ ε} {w : Walk σ} (cs : List Case)
    (h : w.phase.next (ε := ε) u.expected w.digest = .ok .running) :
    w.run u cs = ({ w with phase := .running } : Walk σ).run u cs := by
  have hr : Phase.running.next (ε := ε) u.expected w.digest = .ok .running := rfl
  cases cs with
  | nil =>
    simp only [Walk.run, Walk.finish, h, hr]
    rfl
  | cons c cs =>
    have hs : w.step u c = ({ w with phase := .running } : Walk σ).step u c := by
      simp only [Walk.step, h, hr]
      rfl
    rw [Walk.run, Walk.run, hs]

theorem run_of_le (x : Executor σ ε) (drivers : Drivers) {d : Domain}
    {resume : Option ResumeToken} (hi : resume.elim 0 ResumeToken.index ≤ d.caseCount) (s : σ) :
    run x drivers d resume s =
      (firstWalk resume s).run (setup x drivers d resume) d.cases := by
  rw [run]
  exact if_neg (Nat.not_lt.mpr hi)

/-- A run whose token is accepted executes from the position in the token on. -/
theorem run_of_accepts {d : Domain} (hd : d.ForGcc) (x : Executor σ ε) (drivers : Drivers)
    {resume : Option ResumeToken} (ha : d.Accepts resume) (s : σ) :
    run x drivers d resume s =
      (executing d (resume.elim 0 ResumeToken.index) s).run (setup x drivers d resume)
        (d.cases.drop (resume.elim 0 ResumeToken.index)) := by
  rw [run_of_le x drivers ha.index_le s]
  cases resume with
  | none => rfl
  | some t =>
    rw [(reaches_comparing hd ha.index_le _ s).run_eq]
    apply run_of_next
    have hc : checkDigest (ε := ε) t.digestStart (d.digestBefore t.index) = .ok () := by
      apply checkDigest_of_prefix
      intro p hp
      rw [Domain.chars_digestBefore]
      exact (ha t rfl).2 p hp
    simp only [comparing, setup, Phase.next, Option.bind_some, hc, Except.map]

section Ending

variable (x : Executor σ ε) (drivers : Drivers) (d : Domain) (n : ℕ) (s : σ)

/-- How a run ends that starts at the position `n` and whose first `m` cases pass. In each way the
events are those of the cases that were executed, and of no other. -/
inductive Ending (m : ℕ) : Transcript σ ε → Prop
  /-- There is no further case. -/
  | finished (hm : n + m = d.caseCount) :
      Ending m
        ⟨caseEvents drivers n (d.cases.drop n),
          .finished
            ⟨d.caseCount, n, d.caseCount - n, String.ofList (d.hashBefore d.caseCount)⟩,
          x.after drivers s (d.cases.drop n)⟩
  /-- The executor answers the next case with an error. -/
  | stopped {c : Case} {e : ε} (hc : d.cases[n + m]? = some c)
      (he : x.answerAfter drivers s ((d.cases.drop n).take m) c = .error e) :
      Ending m
        ⟨caseEvents drivers n ((d.cases.drop n).take (m + 1)),
          .stopped (.execution c e),
          x.after drivers s ((d.cases.drop n).take (m + 1))⟩
  /-- Verification finds something in the output that the executor answers the next case with. -/
  | failed {c : Case} {captured : Captured} (hc : d.cases[n + m]? = some c)
      (ha : x.answerAfter drivers s ((d.cases.drop n).take m) c = .ok captured)
      (hv : c.outcome.verify captured ≠ []) :
      Ending m
        ⟨caseEvents drivers n ((d.cases.drop n).take (m + 1)),
          .failed ⟨n + m, c,
            ⟨c.outcome, .ofCase c drivers, captured, c.outcome.verify captured⟩,
            d.tokenAt (n + m), d.tokenAt (n + m + 1)⟩,
          x.after drivers s ((d.cases.drop n).take (m + 1))⟩

end Ending

theorem stop_through (u : Walk.Setup σ ε) (d : Domain) (n : ℕ) (s : σ) (cs : List Case)
    (r : RunResult ε) :
    ((executing d n s).through u cs).stop r =
      ⟨caseEvents u.drivers n cs, r, u.executor.after u.drivers s cs⟩ := by
  simp [Walk.stop, Walk.through, executing]

theorem token_through (u : Walk.Setup σ ε) {d : Domain} {n m : ℕ} (s : σ)
    (h : n + m ≤ d.caseCount) :
    ((executing d n s).through u ((d.cases.drop n).take m)).token = d.tokenAt (n + m) := by
  have hlen := Domain.length_take_drop_cases h
  simp only [Walk.token, Walk.through, executing, hlen, ← Domain.digestBefore_add,
    OutcomeDigest.tokenStart, OutcomeDigest.start, Domain.chars_digestBefore, Domain.tokenAt,
    OutcomeDigest.tokenLength]

theorem finish_through (u : Walk.Setup σ ε) {d : Domain} {n : ℕ} (s : σ) (hn : n ≤ d.caseCount) :
    ((executing d n s).through u (d.cases.drop n)).finish u =
      ⟨caseEvents u.drivers n (d.cases.drop n),
        .finished ⟨u.caseCount, u.skipped, d.caseCount - n, String.ofList (d.hashBefore d.caseCount)⟩,
        u.executor.after u.drivers s (d.cases.drop n)⟩ := by
  have hlen : (d.cases.drop n).length = d.caseCount - n := by
    rw [List.length_drop, Domain.length_cases]
  let w := (executing d n s).through u (d.cases.drop n)
  have hexec : w.executed = d.caseCount - n := by
    simp only [w, Walk.through, executing, hlen, Nat.zero_add]
  have hdig : w.digest = d.digestBefore d.caseCount := by
    have ht : (d.cases.drop n).take (d.caseCount - n) = d.cases.drop n := by
      rw [← hlen, List.take_length]
    have ha := d.digestBefore_add n (d.caseCount - n)
    rw [ht, Nat.add_sub_cancel' hn] at ha
    exact ha.symm
  have hf : w.finish u =
      w.stop (.finished ⟨u.caseCount, u.skipped, w.executed, w.digest.hex⟩) := rfl
  change w.finish u = _
  rw [hf, hexec, hdig, stop_through, OutcomeDigest.hex, Domain.chars_digestBefore]

/-- The first case that does not pass ends the walk. -/
theorem ending_of_not_passed {d : Domain} (hd : d.ForGcc) (u : Walk.Setup σ ε) {n m : ℕ} (s : σ)
    {c : Case} (hc : d.cases[n + m]? = some c)
    (hfail : ¬ Executor.Passes
      (u.executor.answerAfter u.drivers s ((d.cases.drop n).take m) c) c) :
    Ending u.executor u.drivers d n s m
      (((executing d n s).through u ((d.cases.drop n).take m)).run u
        ((d.cases.drop n).drop m)) := by
  obtain ⟨hlt, hget⟩ := List.getElem?_eq_some_iff.mp hc
  have hcc : c.compiler = .gcc := hd.compiler_eq c (hget ▸ List.getElem_mem hlt)
  have hle : n + m + 1 ≤ d.caseCount := Domain.lt_caseCount_of_getElem? hc
  have hdrop : (d.cases.drop n).drop m = c :: d.cases.drop (n + m + 1) := by
    rw [List.drop_drop, List.drop_eq_getElem_cons hlt, hget]
  have htake : (d.cases.drop n).take m ++ [c] = (d.cases.drop n).take (m + 1) := by
    rw [List.take_add_one, List.getElem?_drop, hc]
    rfl
  let w := (executing d n s).through u ((d.cases.drop n).take m)
  have hw : w.through u [c] = (executing d n s).through u ((d.cases.drop n).take (m + 1)) := by
    rw [← htake, Walk.through_append]
  have htok : w.token = d.tokenAt (n + m) := token_through u s (Nat.le_of_succ_le hle)
  have htok' : (w.through u [c]).token = d.tokenAt (n + m + 1) := by
    rw [hw]
    exact token_through u s hle
  have hindex : w.index = n + m := by
    have h := congrArg ResumeToken.index htok
    simpa [Walk.token, Domain.tokenAt] using h
  change Ending _ _ _ _ _ _ (w.run u ((d.cases.drop n).drop m))
  rw [hdrop, Walk.run, Walk.step_of_next (Walk.next_running rfl) hcc, Walk.attempt_eq]
  cases ha : (u.executor.execute w.state (.ofCase c u.drivers)).1 with
  | error e =>
    simp only [hw, stop_through]
    exact .stopped hc ha
  | ok captured =>
    have hv : c.outcome.verify captured ≠ [] := fun hv => hfail ⟨captured, ha, hv⟩
    simp only [if_neg hv, htok, htok', hindex]
    simp only [hw, stop_through]
    exact .failed hc ha hv

/-- A walk over the cases that are left ends in one of the three ways. -/
theorem exists_ending {d : Domain} (hd : d.ForGcc) {u : Walk.Setup σ ε} {n : ℕ}
    (hn : n ≤ d.caseCount) (hu : u.caseCount = d.caseCount) (hk : u.skipped = n) (s : σ) :
    ∃ m, u.executor.AllPass u.drivers s ((d.cases.drop n).take m) ∧
      Ending u.executor u.drivers d n s m ((executing d n s).run u (d.cases.drop n)) := by
  obtain ⟨m, hm, hend⟩ := u.executor.exists_allPass_take u.drivers s (d.cases.drop n)
  refine ⟨m, hm, ?_⟩
  have hgcc : ∀ c ∈ (d.cases.drop n).take m, c.compiler = .gcc :=
    fun c hc => hd.compiler_eq c (List.mem_of_mem_drop (List.mem_of_mem_take hc))
  have hr := (Walk.reaches_through (u := u) (w := executing d n s) rfl hgcc hm
    ((d.cases.drop n).drop m)).run_eq
  rw [List.take_append_drop] at hr
  rw [hr]
  obtain hall | ⟨c, hc, hfail⟩ := hend
  · have hsum : n + m = d.caseCount := by
      rw [List.length_drop, Domain.length_cases] at hall
      omega
    rw [hall, List.drop_length, List.take_length, Walk.run, finish_through u s hn, hu, hk]
    rw [← hall]
    exact .finished hsum
  · rw [List.getElem?_drop] at hc
    exact ending_of_not_passed hd u s hc hfail

theorem exists_ending_run {d : Domain} (hd : d.ForGcc) (x : Executor σ ε) (drivers : Drivers)
    {resume : Option ResumeToken} (ha : d.Accepts resume) (s : σ) :
    ∃ m, x.AllPass drivers s ((d.cases.drop (resume.elim 0 ResumeToken.index)).take m) ∧
      Ending x drivers d (resume.elim 0 ResumeToken.index) s m (run x drivers d resume s) := by
  rw [run_of_accepts hd x drivers ha s]
  exact exists_ending hd (u := setup x drivers d resume) ha.index_le rfl rfl s

namespace Ending

variable {x : Executor σ ε} {drivers : Drivers} {d : Domain} {n m : ℕ} {s : σ}
  {t : Transcript σ ε}

/-- The cases that were executed follow one another from the start on. -/
theorem events_eq (h : Ending x drivers d n s m t) :
    ∃ q, n + q ≤ d.caseCount ∧ t.events = caseEvents drivers n ((d.cases.drop n).take q) := by
  have next {c : Case} (hc : d.cases[n + m]? = some c) : n + (m + 1) ≤ d.caseCount :=
    Domain.lt_caseCount_of_getElem? hc
  cases h with
  | finished hm =>
    refine ⟨m, hm.le, ?_⟩
    rw [List.take_of_length_le]
    rw [List.length_drop, Domain.length_cases]
    omega
  | stopped hc _ => exact ⟨m + 1, next hc, rfl⟩
  | failed hc _ _ => exact ⟨m + 1, next hc, rfl⟩

/-- A run without a failure reports the digest that the domain has without any run. -/
theorem ofDomain_eq {report : RunReport} (hd : d.ForGcc) (h : Ending x drivers d n s m t)
    (hr : t.result = .finished report) :
    (OutcomeDigest.ofDomain d).map OutcomeDigest.hex = .ok report.digest := by
  rw [Domain.ofDomain_of_gcc hd, Except.map, OutcomeDigest.hex, Domain.chars_digestBefore]
  cases h with
  | finished _ =>
    cases hr
    rfl
  | stopped _ _ => cases hr
  | failed _ _ _ => cases hr

/-- A failure holds what running its case gives on the same answer. -/
theorem runCase_eq {f : CaseFailure} (hd : d.ForGcc) (h : Ending x drivers d n s m t)
    (hf : t.result = .failed f) :
    (x.runCase drivers f.spec (x.after drivers s ((d.cases.drop n).take (f.index - n)))).1 =
      .ok f.run := by
  cases h with
  | finished _ => cases hf
  | stopped _ _ => cases hf
  | failed hc ha _ =>
    cases hf
    rw [Nat.add_sub_cancel_left]
    exact Executor.runCase_of_ok (hd.compiler_eq _ (List.mem_of_getElem? hc)) ha

/-- Only the executor has errors. -/
theorem eq_execution {e : RunError ε} (h : Ending x drivers d n s m t)
    (he : t.result = .stopped e) : ∃ c e', e = .execution c e' := by
  cases h with
  | finished _ => cases he
  | stopped _ _ =>
    cases he
    exact ⟨_, _, rfl⟩
  | failed _ _ _ => cases he

end Ending

/-- What a run does that starts at the position `n`. -/
structure ExactTrace (x : Executor σ ε) (drivers : Drivers) (d : Domain) (n : ℕ) (s : σ)
    (t : Transcript σ ε) : Prop where
  /-- It ends at the first case that does not pass, or at the end of the domain. -/
  ending : ∃ m, x.AllPass drivers s ((d.cases.drop n).take m) ∧ Ending x drivers d n s m t
  /-- Call `k` of the executor gets the script of the case at `n + k`, directly after this case was
  announced, and nothing else is announced or executed. -/
  calls : ∃ q, t.events.length = 2 * q ∧ ∀ k < q, ∃ c, d.cases[n + k]? = some c ∧
    t.events[2 * k]? = some (.progress (n + k) c c.outcome) ∧
    t.events[2 * k + 1]? = some (.execute (.ofCase c drivers))
  /-- A failure holds the run that the case gives on its own, on the answer that it got here. -/
  run : ∀ f, t.result = .failed f →
    (x.runCase drivers f.spec (x.after drivers s ((d.cases.drop n).take (f.index - n)))).1 =
      .ok f.run
  /-- The digest in a report is the one of the domain. -/
  digest : ∀ report, t.result = .finished report →
    (OutcomeDigest.ofDomain d).map OutcomeDigest.hex = .ok report.digest
  /-- An error is one of the executor, told with the case that it was for. -/
  errors : ∀ e, t.result = .stopped e → ∃ c e', e = .execution c e' ∧
    ∀ inner, e.chain inner = ("execute case " ++ c.text) :: inner e'

/-- Gives the number of its calls so far as the exit code. -/
def callCounter : Executor ℕ Empty :=
  ⟨fun calls _ => (.ok ⟨"1\n2\n", "", some (calls : ℤ), false⟩, calls + 1)⟩

theorem after_callCounter (drivers : Drivers) (s : ℕ) (cs : List Case) :
    callCounter.after drivers s cs = s + cs.length := by
  induction cs generalizing s with
  | nil => rfl
  | cons c cs ih =>
    rw [Executor.after_cons, ih, List.length_cons]
    simp only [callCounter]
    omega

theorem answerAfter_callCounter (drivers : Drivers) {d : Domain} {n k : ℕ} (h : n + k ≤ d.caseCount)
    (s : ℕ) (c : Case) :
    callCounter.answerAfter drivers s ((d.cases.drop n).take k) c =
      .ok ⟨"1\n2\n", "", some ((s + k : ℕ) : ℤ), false⟩ := by
  rw [Executor.answerAfter, after_callCounter, Domain.length_take_drop_cases h]
  rfl

/-- A static definition, at each of the levels. -/
def staticAtLevels : Domain :=
  ⟨[.o0, .o1, .o2, .o3], [.symmetric [.staticStorage]], [.gcc], [.gnu99]⟩

end Runner

end InlineLinkage
