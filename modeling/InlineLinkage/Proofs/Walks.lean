import InlineLinkage.Proofs.OutcomeHash
import InlineLinkage.Report

/-!
# Steps of a run

A run meets one case after the other. While it skips, a step takes the outcome into the digest and
counts down. Afterwards a step announces the case and gives its script to the executor, and stops at the
first case that does not pass. What a row of such steps leads to is said in one equation for each of
the two ways.
-/
namespace InlineLinkage

variable {σ ε : Type}

namespace Executor

theorem runCase_of_gcc (x : Executor σ ε) (drivers : Drivers) {c : Case} (s : σ)
    (hc : c.compiler = .gcc) :
    x.runCase drivers c s =
      match x.execute s (.ofCase c drivers) with
      | (.error e, t) => (.error (.execution c e), t)
      | (.ok captured, t) => (.ok (.ofCaptured c.outcome (.ofCase c drivers) captured), t) := by
  have hp := Case.predict_of_gcc hc
  cases hx : x.execute s (.ofCase c drivers) with
  | mk answer t =>
    cases answer with
    | error e => simp only [runCase, hp, hx]
    | ok captured => simp only [runCase, hp, hx]

theorem runCase_of_ok {x : Executor σ ε} {drivers : Drivers} {c : Case} {s : σ} {captured : Captured}
    (hc : c.compiler = .gcc) (h : (x.execute s (.ofCase c drivers)).1 = .ok captured) :
    (x.runCase drivers c s).1 =
      .ok ⟨c.outcome, .ofCase c drivers, captured, c.outcome.verify captured⟩ := by
  rw [runCase_of_gcc x drivers s hc]
  cases hx : x.execute s (.ofCase c drivers) with
  | mk answer t =>
    rw [hx] at h
    obtain rfl : answer = .ok captured := h
    rfl

/-- The executor after it was given the scripts of a row of cases. -/
def after (x : Executor σ ε) (drivers : Drivers) (s : σ) (cs : List Case) : σ :=
  cs.foldl (fun t c => (x.execute t (.ofCase c drivers)).2) s

@[simp] theorem after_nil (x : Executor σ ε) (drivers : Drivers) (s : σ) :
    x.after drivers s [] = s := rfl

@[simp] theorem after_cons (x : Executor σ ε) (drivers : Drivers) (s : σ) (c : Case)
    (cs : List Case) :
    x.after drivers s (c :: cs) = x.after drivers (x.execute s (.ofCase c drivers)).2 cs := rfl

theorem after_append (x : Executor σ ε) (drivers : Drivers) (s : σ) (cs ds : List Case) :
    x.after drivers s (cs ++ ds) = x.after drivers (x.after drivers s cs) ds :=
  List.foldl_append

/-- What the executor answers to the script of a case after those of a row of others. -/
def answerAfter (x : Executor σ ε) (drivers : Drivers) (s : σ) (cs : List Case) (c : Case) :
    Except ε Captured :=
  (x.execute (x.after drivers s cs) (.ofCase c drivers)).1

/-- The output that is answered holds what is predicted for a case. -/
def Passes (answer : Except ε Captured) (c : Case) : Prop :=
  ∃ captured, answer = .ok captured ∧ c.outcome.verify captured = []

/-- Every case of a row passes when it comes after those before it. -/
def AllPass (x : Executor σ ε) (drivers : Drivers) (s : σ) (cs : List Case) : Prop :=
  ∀ k c, cs[k]? = some c → Passes (x.answerAfter drivers s (cs.take k) c) c

theorem allPass_nil (x : Executor σ ε) (drivers : Drivers) (s : σ) : x.AllPass drivers s [] := by
  intro k c hk
  simp at hk

theorem allPass_cons {x : Executor σ ε} {drivers : Drivers} {s : σ} {c : Case} {cs : List Case} :
    x.AllPass drivers s (c :: cs) ↔
      Passes (x.execute s (.ofCase c drivers)).1 c ∧
        x.AllPass drivers (x.execute s (.ofCase c drivers)).2 cs := by
  constructor
  · intro h
    refine ⟨h 0 c rfl, ?_⟩
    intro k e hk
    exact h (k + 1) e hk
  · rintro ⟨hc, hcs⟩ k e hk
    cases k with
    | zero =>
      obtain rfl : c = e := by simpa using hk
      exact hc
    | succ k => exact hcs k e hk

/-- No more cases pass than stand before one that does not. -/
theorem AllPass.le_of_not_passes {x : Executor σ ε} {drivers : Drivers} {s : σ} {cs : List Case}
    {m k : ℕ} {c : Case} (hm : x.AllPass drivers s (cs.take m)) (hc : cs[k]? = some c)
    (hfail : ¬ Passes (x.answerAfter drivers s (cs.take k) c) c) : m ≤ k := by
  by_contra hle
  have hlt : k < m := Nat.lt_of_not_le hle
  have hpass := hm k c (by rw [List.getElem?_take_of_lt hlt, hc])
  rw [List.take_take, Nat.min_eq_left hlt.le] at hpass
  exact hfail hpass

/-- A row of cases starts with those that pass, up to its end or to a case that does not. -/
theorem exists_allPass_take (x : Executor σ ε) (drivers : Drivers) (s : σ) (cs : List Case) :
    ∃ m, x.AllPass drivers s (cs.take m) ∧
      (m = cs.length ∨ ∃ c, cs[m]? = some c ∧
        ¬ Passes (x.answerAfter drivers s (cs.take m) c) c) := by
  induction cs generalizing s with
  | nil => exact ⟨0, x.allPass_nil drivers s, .inl rfl⟩
  | cons c cs ih =>
    by_cases hc : Passes (x.execute s (.ofCase c drivers)).1 c
    · obtain ⟨m, hm, hend⟩ := ih (x.execute s (.ofCase c drivers)).2
      refine ⟨m + 1, ?_, ?_⟩
      · rw [List.take_succ_cons]
        exact allPass_cons.mpr ⟨hc, hm⟩
      · obtain hlen | ⟨e, he, hfail⟩ := hend
        · exact .inl (congrArg (· + 1) hlen)
        · exact .inr ⟨e, he, hfail⟩
    · exact ⟨0, x.allPass_nil drivers s, .inr ⟨c, rfl, hc⟩⟩

end Executor

namespace Runner

/-- What a run does for a row of cases, of which the first has the given index: it announces each and
then gives it to the executor. -/
def caseEvents (drivers : Drivers) (index : ℕ) : List Case → List Event
  | [] => []
  | c :: cs =>
    .progress index c c.outcome :: .execute (.ofCase c drivers) :: caseEvents drivers (index + 1) cs

theorem caseEvents_append (drivers : Drivers) (index : ℕ) (cs ds : List Case) :
    caseEvents drivers index (cs ++ ds) =
      caseEvents drivers index cs ++ caseEvents drivers (index + cs.length) ds := by
  induction cs generalizing index with
  | nil => rfl
  | cons c cs ih =>
    rw [List.cons_append, caseEvents, caseEvents, ih, List.length_cons]
    rw [show index + 1 + cs.length = index + (cs.length + 1) by omega]
    rfl

@[simp] theorem length_caseEvents (drivers : Drivers) (index : ℕ) (cs : List Case) :
    (caseEvents drivers index cs).length = 2 * cs.length := by
  induction cs generalizing index with
  | nil => rfl
  | cons c cs ih =>
    simp only [caseEvents, List.length_cons, ih]
    omega

/-- The events of one case stand next to each other, at twice its place in the row. -/
theorem getElem?_caseEvents (drivers : Drivers) (index : ℕ) {k : ℕ} {cs : List Case} {c : Case}
    (hc : cs[k]? = some c) :
    (caseEvents drivers index cs)[2 * k]? = some (.progress (index + k) c c.outcome) ∧
      (caseEvents drivers index cs)[2 * k + 1]? = some (.execute (.ofCase c drivers)) := by
  induction cs generalizing index k with
  | nil => simp at hc
  | cons e cs ih =>
    cases k with
    | zero =>
      obtain rfl : e = c := by simpa using hc
      exact ⟨rfl, rfl⟩
    | succ k =>
      have h := ih (index + 1) hc
      rw [show index + 1 + k = index + (k + 1) by omega] at h
      exact h

/-- Each case is given to the executor once. -/
theorem filterMap_script_caseEvents (drivers : Drivers) (index : ℕ) (cs : List Case) :
    (caseEvents drivers index cs).filterMap Event.script? =
      cs.map (BuildScript.ofCase · drivers) := by
  induction cs generalizing index with
  | nil => rfl
  | cons c cs ih =>
    rw [List.map_cons, ← ih (index + 1)]
    rfl

namespace Walk

variable {u : Setup σ ε} {w : Walk σ} {c : Case}

/-- The walks that a walk leads to, each with the cases that are left. -/
inductive Reaches (u : Setup σ ε) (w : Walk σ) (cs : List Case) : Walk σ → List Case → Prop
  | refl : Reaches u w cs w cs
  | step {v v' : Walk σ} {c : Case} {rest : List Case} :
      Reaches u w cs v (c :: rest) → v.step u c = .ok v' → Reaches u w cs v' rest

theorem Reaches.run_eq {v : Walk σ} {cs rest : List Case} (h : Reaches u w cs v rest) :
    w.run u cs = v.run u rest := by
  induction h with
  | refl => rfl
  | step _ hs ih => rw [ih, run, hs]

theorem Reaches.head {w' v : Walk σ} {cs rest : List Case} (hs : w.step u c = .ok w')
    (h : Reaches u w' cs v rest) : Reaches u w (c :: cs) v rest := by
  induction h with
  | refl => exact .step .refl hs
  | step _ hv ih => exact .step ih hv

theorem step_skipping {remaining : ℕ} (hw : w.phase = .skipping (remaining + 1))
    (hc : c.compiler = .gcc) : w.step u c = .ok (w.skip (remaining + 1) c.outcome) := by
  have hn : w.phase.next (ε := ε) u.expected w.digest = .ok (.skipping (remaining + 1)) := by
    rw [hw]
    rfl
  rw [step, hn]
  simp only [Case.predict_of_gcc hc]

/-- The walk after a row of cases was skipped and some number is to be skipped still. -/
def skipAll (w : Walk σ) (remaining : ℕ) (cs : List Case) : Walk σ :=
  { w with
    phase := .skipping remaining
    index := w.index + cs.length
    digest := w.digest.foldAll (cs.map Case.outcome) }

theorem reaches_skipAll {remaining : ℕ} {cs : List Case}
    (hw : w.phase = .skipping (remaining + cs.length)) (hc : ∀ c ∈ cs, c.compiler = .gcc)
    (rest : List Case) : Reaches u w (cs ++ rest) (w.skipAll remaining cs) rest := by
  induction cs generalizing w with
  | nil =>
    have he : w.skipAll remaining [] = w := by
      cases w
      simp only at hw
      simp [skipAll, hw]
    rw [he]
    exact .refl
  | cons c cs ih =>
    rw [List.length_cons, ← Nat.add_assoc] at hw
    have hs := step_skipping (u := u) hw (hc c List.mem_cons_self)
    have hn := ih (w := w.skip (remaining + cs.length + 1) c.outcome) (by rfl)
      fun d hd => hc d (List.mem_cons_of_mem _ hd)
    have he : (w.skip (remaining + cs.length + 1) c.outcome).skipAll remaining cs =
        w.skipAll remaining (c :: cs) := by
      simp only [skip, skipAll, List.map_cons, OutcomeDigest.foldAll_cons, List.length_cons]
      congr 1
      omega
    rw [he] at hn
    exact hn.head hs

/-- The walk after a row of cases was executed. -/
def through (u : Setup σ ε) (w : Walk σ) (cs : List Case) : Walk σ where
  phase := .running
  index := w.index + cs.length
  digest := w.digest.foldAll (cs.map Case.outcome)
  executed := w.executed + cs.length
  events := (caseEvents u.drivers w.index cs).reverse ++ w.events
  state := u.executor.after u.drivers w.state cs

theorem through_nil (hw : w.phase = .running) : w.through u [] = w := by
  cases w
  simp only at hw
  simp [through, caseEvents, hw]

theorem through_append (cs ds : List Case) :
    w.through u (cs ++ ds) = (w.through u cs).through u ds := by
  simp only [through, List.length_append, List.map_append, OutcomeDigest.foldAll_append,
    caseEvents_append, List.reverse_append, List.append_assoc, Executor.after_append,
    Nat.add_assoc]

/-- A case that is met while the walk executes, or when its digest was found right. -/
theorem step_of_next (hn : w.phase.next (ε := ε) u.expected w.digest = .ok .running)
    (hc : c.compiler = .gcc) : w.step u c = w.attempt u c c.outcome := by
  rw [step, hn]
  simp only [Case.predict_of_gcc hc]

theorem next_running (hw : w.phase = .running) :
    w.phase.next (ε := ε) u.expected w.digest = .ok .running := by
  rw [hw]
  rfl

theorem execute_eq_through :
    w.execute c c.outcome (.ofCase c u.drivers) (u.executor.execute w.state (.ofCase c u.drivers)).2 =
      w.through u [c] := by
  simp [execute, through, caseEvents]

/-- What becomes of a case depends on the answer of the executor alone: an error ends the run, and output
ends it unless verification finds nothing in it. -/
theorem attempt_eq :
    w.attempt u c c.outcome =
      match (u.executor.execute w.state (.ofCase c u.drivers)).1 with
      | .error e => .error ((w.through u [c]).stop (.stopped (.execution c e)))
      | .ok captured =>
        if c.outcome.verify captured = [] then .ok (w.through u [c])
        else .error ((w.through u [c]).stop
          (.failed ⟨w.index, c,
            ⟨c.outcome, .ofCase c u.drivers, captured, c.outcome.verify captured⟩,
            w.token, (w.through u [c]).token⟩)) := by
  have ht := execute_eq_through (u := u) (w := w) (c := c)
  rw [attempt]
  cases hx : u.executor.execute w.state (.ofCase c u.drivers) with
  | mk answer s =>
    rw [hx] at ht
    cases answer with
    | error e => simp only [ht]
    | ok captured => simp only [ht, CaseRun.ofCaptured, CaseRun.passed, List.isEmpty_iff]

/-- A walk goes through all cases that pass. -/
theorem reaches_through {cs : List Case} (hw : w.phase = .running)
    (hc : ∀ c ∈ cs, c.compiler = .gcc) (hp : u.executor.AllPass u.drivers w.state cs)
    (rest : List Case) : Reaches u w (cs ++ rest) (w.through u cs) rest := by
  induction cs generalizing w with
  | nil =>
    rw [through_nil hw]
    exact .refl
  | cons c cs ih =>
    obtain ⟨⟨captured, ha, hpass⟩, hcs⟩ := Executor.allPass_cons.mp hp
    have hs : w.step u c = .ok (w.through u [c]) := by
      rw [step_of_next (next_running hw) (hc c List.mem_cons_self), attempt_eq, ha]
      exact if_pos hpass
    have hn := ih (w := w.through u [c]) rfl (fun d hd => hc d (List.mem_cons_of_mem _ hd)) hcs
    rw [← through_append] at hn
    exact hn.head hs

/-- All that a step can do when it does not end the run. -/
theorem step_cases {w' : Walk σ} (hc : c.compiler = .gcc) (hs : w.step u c = .ok w') :
    (∃ remaining, w.phase = .skipping (remaining + 1) ∧
      w' = w.skip (remaining + 1) c.outcome) ∨
    (w.phase.next (ε := ε) u.expected w.digest = .ok .running ∧ w' = w.through u [c] ∧
      Executor.Passes (u.executor.execute w.state (.ofCase c u.drivers)).1 c) := by
  have executes (hn : w.phase.next (ε := ε) u.expected w.digest = .ok .running) :
      w' = w.through u [c] ∧
        Executor.Passes (u.executor.execute w.state (.ofCase c u.drivers)).1 c := by
    rw [step_of_next hn hc] at hs
    cases ha : (u.executor.execute w.state (.ofCase c u.drivers)).1 with
    | error e =>
      rw [attempt_eq, ha] at hs
      cases hs
    | ok captured =>
      rw [attempt_eq, ha] at hs
      dsimp only at hs
      split_ifs at hs with hp
      cases hs
      exact ⟨rfl, captured, rfl, hp⟩
  cases hw : w.phase with
  | running =>
    have hn := next_running (u := u) hw
    exact .inr ⟨hw ▸ hn, executes hn⟩
  | skipping remaining =>
    cases remaining with
    | zero =>
      cases hn : w.phase.next (ε := ε) u.expected w.digest with
      | error e =>
        rw [step, hn] at hs
        cases hs
      | ok phase =>
        obtain rfl : phase = .running := by
          rw [hw, Phase.next] at hn
          cases hd : checkDigest (ε := ε) u.expected w.digest <;> rw [hd] at hn <;> cases hn
          rfl
        exact .inr ⟨hw ▸ hn, executes hn⟩
    | succ remaining =>
      rw [step_skipping hw hc] at hs
      cases hs
      exact .inl ⟨remaining, rfl, rfl⟩

end Walk

end Runner

end InlineLinkage
