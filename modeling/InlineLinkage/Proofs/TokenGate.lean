import InlineLinkage.Proofs.RunTrace

/-!
# Resume tokens as gates

A token is judged before anything is announced or executed, and only once. While cases are skipped, the
counter of a walk and the number of outcomes in its digest add up to the index of the token. So the
counter is never at zero when it is counted down, and when it gets there the digest holds just the
outcomes before the index.
-/
namespace InlineLinkage

variable {σ ε : Type}

/-- The run ended because of its token. -/
def Transcript.RejectsToken (t : Transcript σ ε) : Prop :=
  (∃ i n, t.result = .stopped (.pastEnd i n)) ∨
    ∃ n expected actual, t.result = .stopped (.digestMismatch n expected actual)

namespace Runner

/-- What holds of every walk of a run from a token on. -/
structure Counted (d : Domain) (t : ResumeToken) (s : σ) (w : Walk σ) (cs : List Case) : Prop where
  left : cs = d.cases.drop w.digest.folded
  index : w.index = w.digest.folded
  digest : w.digest = d.digestBefore w.digest.folded
  skipping : ∀ remaining, w.phase = .skipping remaining →
    remaining + w.digest.folded = t.index ∧ w.events = [] ∧ w.state = s
  running : w.phase = .running → t.index ≤ w.digest.folded

theorem counted_firstWalk (d : Domain) (t : ResumeToken) (s : σ) :
    Counted d t s (firstWalk (some t) s) d.cases where
  left := rfl
  index := rfl
  digest := rfl
  skipping := by
    intro remaining h
    cases h
    exact ⟨rfl, rfl, rfl⟩
  running := by
    intro h
    cases h

/-- One more outcome is one more case. -/
theorem digestBefore_succ {d : Domain} {n : ℕ} {c : Case} {cs : List Case}
    (h : c :: cs = d.cases.drop n) :
    d.digestBefore (n + 1) = (d.digestBefore n).fold c.outcome ∧ cs = d.cases.drop (n + 1) := by
  constructor
  · rw [Domain.digestBefore_add, ← h]
    rfl
  · rw [← List.drop_drop, ← h]
    rfl

theorem Counted.step {d : Domain} (hd : d.ForGcc) {t : ResumeToken} {s : σ}
    {u : Walk.Setup σ ε} {w w' : Walk σ} {c : Case} {cs : List Case}
    (h : Counted d t s w (c :: cs)) (hs : w.step u c = .ok w') : Counted d t s w' cs := by
  have hc : c.compiler = .gcc :=
    hd.compiler_eq c (List.mem_of_mem_drop (h.left ▸ List.mem_cons_self))
  obtain ⟨hdig, hcs⟩ := digestBefore_succ h.left
  rw [← h.digest] at hdig
  obtain ⟨remaining, hw, rfl⟩ | ⟨hn, rfl, -⟩ := Walk.step_cases hc hs
  · obtain ⟨hsum, hev, hst⟩ := h.skipping _ hw
    refine ⟨hcs, congrArg (· + 1) h.index, hdig.symm, ?_, ?_⟩
    · rintro _ ⟨⟩
      refine ⟨?_, hev, hst⟩
      simp only [Walk.skip, OutcomeDigest.fold]
      omega
    · intro hr
      cases hr
  · refine ⟨hcs, congrArg (· + 1) h.index, hdig.symm, ?_, ?_⟩
    · intro remaining hr
      cases hr
    · intro _
      have hle : t.index ≤ w.digest.folded := by
        cases hw : w.phase with
        | running => exact h.running hw
        | skipping remaining =>
          cases remaining with
          | zero =>
            have := (h.skipping 0 hw).1
            omega
          | succ remaining =>
            rw [hw] at hn
            cases hn
      exact Nat.le_succ_of_le hle

/-- Every walk of a run from a token on is counted. -/
theorem counted_of_reaches {d : Domain} (hd : d.ForGcc) {t : ResumeToken} {s : σ}
    {u : Walk.Setup σ ε} {w : Walk σ} {cs : List Case}
    (h : Walk.Reaches u (firstWalk (some t) s) d.cases w cs) : Counted d t s w cs := by
  induction h with
  | refl => exact counted_firstWalk d t s
  | step _ hs ih => exact ih.step hd hs

/-- A token lies past the end, or has the wrong digits, or is accepted. -/
theorem token_cases (d : Domain) (t : ResumeToken) :
    d.caseCount < t.index ∨
    (t.index ≤ d.caseCount ∧ ∃ p, t.digestStart = some p ∧ ¬ p.toList <+: d.hashBefore t.index) ∨
    d.Accepts (some t) := by
  by_cases ht : d.caseCount < t.index
  · exact .inl ht
  by_cases hp : ∃ p, t.digestStart = some p ∧ ¬ p.toList <+: d.hashBefore t.index
  · exact .inr (.inl ⟨Nat.not_lt.mp ht, hp⟩)
  push Not at ht hp
  exact .inr (.inr (Domain.accepts_some.mpr ⟨ht, hp⟩))

theorem run_of_past_end (x : Executor σ ε) (drivers : Drivers) {d : Domain} {t : ResumeToken}
    (ht : d.caseCount < t.index) (s : σ) :
    run x drivers d (some t) s = ⟨[], .stopped (.pastEnd t.index d.caseCount), s⟩ :=
  if_pos ht

theorem run_of_wrong_digest {d : Domain} (hd : d.ForGcc) (x : Executor σ ε) (drivers : Drivers)
    {t : ResumeToken} {p : String} (ht : t.index ≤ d.caseCount) (hp : t.digestStart = some p)
    (hne : ¬ p.toList <+: d.hashBefore t.index) (s : σ) :
    run x drivers d (some t) s =
      ⟨[], .stopped (.digestMismatch t.index p
        (String.ofList ((d.hashBefore t.index).take p.utf8ByteSize))), s⟩ := by
  have hn : (comparing d t.index s).phase.next (setup x drivers d (some t)).expected
      (comparing d t.index s).digest =
        .error (RunError.digestMismatch (ε := ε) t.index p
          (String.ofList ((d.hashBefore t.index).take p.utf8ByteSize))) := by
    have hc := checkDigest_of_not_prefix (ε := ε) (p := p) (d := d.digestBefore t.index)
      (by rwa [Domain.chars_digestBefore])
    rw [Domain.folded_digestBefore ht, OutcomeDigest.start, Domain.chars_digestBefore] at hc
    simp only [comparing, setup, Option.bind_some, hp, Phase.next, hc, Except.map]
  have hle : (some t).elim 0 ResumeToken.index ≤ d.caseCount := ht
  rw [run_of_le x drivers hle s, (reaches_comparing hd ht _ s).run_eq]
  cases d.cases.drop t.index with
  | nil =>
    rw [Walk.run, Walk.finish, hn]
    rfl
  | cons c cs =>
    rw [Walk.run, Walk.step, hn]
    rfl

theorem not_rejectsToken_of_accepts {d : Domain} (hd : d.ForGcc) (x : Executor σ ε)
    (drivers : Drivers) {resume : Option ResumeToken} (ha : d.Accepts resume) (s : σ) :
    ¬ (run x drivers d resume s).RejectsToken := by
  obtain ⟨m, -, hend⟩ := exists_ending_run hd x drivers ha s
  rintro (⟨i, n, h⟩ | ⟨n, expected, actual, h⟩)
  · obtain ⟨c, e, he⟩ := hend.eq_execution h
    cases he
  · obtain ⟨c, e, he⟩ := hend.eq_execution h
    cases he

theorem rejectsToken_iff {d : Domain} (hd : d.ForGcc) (x : Executor σ ε) (drivers : Drivers)
    (t : ResumeToken) (s : σ) :
    (run x drivers d (some t) s).RejectsToken ↔
      d.caseCount < t.index ∨
        ∃ p, t.digestStart = some p ∧ ¬ p.toList <+: d.hashBefore t.index := by
  constructor
  · intro h
    obtain ht | ⟨-, hp⟩ | ha := token_cases d t
    · exact .inl ht
    · exact .inr hp
    · exact absurd h (not_rejectsToken_of_accepts hd x drivers ha s)
  · intro h
    by_cases ht : d.caseCount < t.index
    · rw [run_of_past_end x drivers ht s]
      exact .inl ⟨_, _, rfl⟩
    · obtain ⟨p, hp, hne⟩ := h.resolve_left ht
      rw [run_of_wrong_digest hd x drivers (Nat.not_lt.mp ht) hp hne s]
      exact .inr ⟨_, _, _, rfl⟩

theorem events_of_rejectsToken {d : Domain} (hd : d.ForGcc) (x : Executor σ ε) (drivers : Drivers)
    {t : ResumeToken} {s : σ} (h : (run x drivers d (some t) s).RejectsToken) :
    (run x drivers d (some t) s).events = [] ∧ (run x drivers d (some t) s).state = s := by
  obtain ht | ⟨ht, p, hp, hne⟩ | ha := token_cases d t
  · rw [run_of_past_end x drivers ht s]
    exact ⟨rfl, rfl⟩
  · rw [run_of_wrong_digest hd x drivers ht hp hne s]
    exact ⟨rfl, rfl⟩
  · exact absurd h (not_rejectsToken_of_accepts hd x drivers ha s)

/-- How a run treats its token. -/
structure TokenGate (x : Executor σ ε) (drivers : Drivers) (d : Domain) (t : ResumeToken) (s : σ) :
    Prop where
  /-- Just the tokens that lie past the end, or whose digits do not start the hash, are rejected. -/
  rejects_iff : (run x drivers d (some t) s).RejectsToken ↔
    d.caseCount < t.index ∨
      ∃ p, t.digestStart = some p ∧ ¬ p.toList <+: d.hashBefore t.index
  /-- A rejected token leaves no trace, neither in what was announced nor in the executor. -/
  silent : (run x drivers d (some t) s).RejectsToken →
    (run x drivers d (some t) s).events = [] ∧ (run x drivers d (some t) s).state = s
  /-- The error names what was wrong. -/
  error : (d.caseCount < t.index →
      (run x drivers d (some t) s).result = .stopped (.pastEnd t.index d.caseCount)) ∧
    (t.index ≤ d.caseCount → ∀ p, t.digestStart = some p → ¬ p.toList <+: d.hashBefore t.index →
      (run x drivers d (some t) s).result = .stopped (.digestMismatch t.index p
        (String.ofList ((d.hashBefore t.index).take p.utf8ByteSize))))
  /-- While cases are skipped, the counter is what the digest lacks. -/
  counter : ∀ w cs remaining,
    Walk.Reaches (setup x drivers d (some t)) (firstWalk (some t) s) d.cases w cs →
    w.phase = .skipping remaining →
      w.digest.folded ≤ t.index ∧ remaining = t.index - w.digest.folded
  /-- A step that goes on skipping finds the counter above zero. -/
  countdown : ∀ w c cs w' remaining,
    Walk.Reaches (setup x drivers d (some t)) (firstWalk (some t) s) d.cases w (c :: cs) →
    w.step (setup x drivers d (some t)) c = .ok w' → w'.phase = .skipping remaining →
      w.phase = .skipping (remaining + 1)
  /-- Within the domain, and also at its two ends, the run gets to the comparison with just the
  outcomes before the index. -/
  compared : t.index ≤ d.caseCount → ∃ w,
    Walk.Reaches (setup x drivers d (some t)) (firstWalk (some t) s) d.cases w
      (d.cases.drop t.index) ∧
    w.phase = .skipping 0 ∧ w.digest.folded = t.index ∧ w.digest.chars = d.hashBefore t.index ∧
    w.events = [] ∧ w.state = s

/-- A token is judged before every side effect, and accepted or rejected by its index and digits
only. -/
theorem token_gates_run {d : Domain} (hd : d.ForGcc) (x : Executor σ ε) (drivers : Drivers)
    (t : ResumeToken) (s : σ) : TokenGate x drivers d t s where
  rejects_iff := rejectsToken_iff hd x drivers t s
  silent := events_of_rejectsToken hd x drivers
  error := by
    constructor
    · intro ht
      rw [run_of_past_end x drivers ht s]
    · intro ht p hp hne
      rw [run_of_wrong_digest hd x drivers ht hp hne s]
  counter := by
    intro w cs remaining hr hw
    have := ((counted_of_reaches hd hr).skipping remaining hw).1
    omega
  countdown := by
    intro w c cs w' remaining hr hs hw'
    have hleft := (counted_of_reaches hd hr).left
    have hc : c.compiler = .gcc :=
      hd.compiler_eq c (List.mem_of_mem_drop (hleft ▸ List.mem_cons_self))
    obtain ⟨k, hw, rfl⟩ | ⟨-, rfl, -⟩ := Walk.step_cases hc hs
    · cases hw'
      exact hw
    · cases hw'
  compared := by
    intro ht
    exact ⟨comparing d t.index s, reaches_comparing hd ht _ s, rfl,
      Domain.folded_digestBefore ht, d.chars_digestBefore t.index, rfl, rfl⟩

/-- In a domain without cases, a token with more digits than a hash has is rejected. -/
theorem token_gates_empty_domain :
    (⟨[], [], [], []⟩ : Domain).ForGcc ∧
      (run callCounter {} ⟨[], [], [], []⟩
        (some ⟨0, some (String.ofList (List.replicate 65 '0'))⟩) 0).RejectsToken := by
  have hd : (⟨[], [], [], []⟩ : Domain).ForGcc := by decide
  refine ⟨hd, (token_gates_run hd callCounter {} _ 0).rejects_iff.mpr (.inr ⟨_, rfl, ?_⟩)⟩
  intro h
  have hlen := h.length_le
  rw [String.toList_ofList, List.length_replicate, Domain.hashBefore,
    Outcome.length_hashChars] at hlen
  contradiction

end Runner

end InlineLinkage
