import InlineLinkage.Proofs.LineText
import InlineLinkage.Proofs.ResumeChain
import InlineLinkage.Proofs.TokenText

/-!
# Failures run again

The report of a failure ends with two tokens. The first of them, copied from the report, leads a new run
to the same case with the same digest, and an executor that answers by the scripts alone shows the same
failure again.
-/
namespace InlineLinkage

open Text

variable {σ ε : Type}

/-- What stands after the option on the line before the last. -/
def printedToken? (report : String) : Option String :=
  match (lines report.toList).reverse with
  | _ :: line :: _ => (textAfter? "--skip ".toList line).map String.ofList
  | _ => none

namespace ResumeToken

theorem newline_not_mem_chars {t : ResumeToken} (ht : t.Printable) : '\n' ∉ t.chars := by
  intro h
  have := (toNat_of_mem_chars ht h).1
  revert this
  decide

theorem getLast?_chars_ne {t : ResumeToken} (ht : t.Printable) : t.chars.getLast? ≠ some '\r' := by
  intro h
  have := (toNat_of_mem_chars ht (List.mem_of_getLast? h)).1
  revert this
  decide

end ResumeToken

namespace Domain

theorem printable_tokenAt (d : Domain) (n : ℕ) : (d.tokenAt n).Printable where
  digits_ne_nil := by
    rintro p hp
    cases hp
    rw [String.toList_ofList]
    intro h
    have hlen := congrArg List.length h
    rw [List.length_take, hashBefore, Outcome.length_hashChars] at hlen
    contradiction
  digits := by
    rintro p hp c hc
    cases hp
    rw [String.toList_ofList] at hc
    exact Outcome.isDigestDigit_of_mem_hashChars (List.mem_of_mem_take hc)

end Domain

namespace CaseRun

theorem exists_resultChars (fs : List Failure) : ∃ start, resultChars fs = start ++ ['\n'] := by
  obtain rfl | ⟨init, last, rfl⟩ := fs.eq_nil_or_concat
  · have hpass : "result:    pass\n".toList = "result:    pass".toList ++ ['\n'] := by decide
    rw [resultChars, if_pos List.isEmpty_nil, hpass]
    exact exists_apply_eq_apply' (· ++ ['\n']) _
  · have hne : ¬ (init.concat last).isEmpty = true := by simp
    rw [resultChars, if_neg hne, List.concat_eq_append, List.flatMap_append, List.flatMap_singleton,
      ← List.append_assoc, ← List.append_assoc]
    exact exists_apply_eq_apply' (· ++ ['\n']) _

/-- The report of a case ends its last line. -/
theorem exists_reportChars (r : CaseRun) (c : Case) :
    ∃ start, r.reportChars c = start ++ ['\n'] := by
  obtain ⟨start, hs⟩ := exists_resultChars r.failures
  -- Only the end of the report matters, so what stands before it is not opened.
  have hfront : ∃ front, r.reportChars c = front ++ resultChars r.failures := ⟨_, rfl⟩
  obtain ⟨front, hf⟩ := hfront
  exact ⟨front ++ start, by rw [hf, hs, List.append_assoc]⟩

end CaseRun

namespace CaseFailure

/-- The last two lines of a failure report are those of its tokens. -/
theorem exists_report_eq (f : CaseFailure) :
    ∃ start, f.report.toList = start ++ '\n' :: (("resume at:  --skip ".toList ++ f.resumeAt.chars) ++
      '\n' :: ("skip past:  --skip ".toList ++ f.skipPast.chars)) := by
  have hfront : ∃ front, f.reportChars = front ++ f.run.reportChars f.spec ++
      "resume at:  --skip ".toList ++ f.resumeAt.chars ++ "\nskip past:  --skip ".toList ++
      f.skipPast.chars := ⟨_, rfl⟩
  obtain ⟨front, hf⟩ := hfront
  obtain ⟨start, hs⟩ := f.run.exists_reportChars f.spec
  have hnl : "\nskip past:  --skip ".toList = '\n' :: "skip past:  --skip ".toList := by decide
  refine ⟨front ++ start, ?_⟩
  rw [report, String.toList_ofList, hf, hs, hnl]
  simp only [List.append_assoc, List.cons_append, List.nil_append]

/-- Of two tokens, the report prints the one that leads back to the failure on the line before the
last. -/
theorem printedToken?_report {f : CaseFailure} (h : f.resumeAt.Printable)
    (h' : f.skipPast.Printable) : printedToken? f.report = some f.resumeAt.text := by
  obtain ⟨start, hs⟩ := f.exists_report_eq
  have hresume : '\n' ∉ "resume at:  --skip ".toList ++ f.resumeAt.chars :=
    List.not_mem_append (by decide) (ResumeToken.newline_not_mem_chars h)
  have hskip : '\n' ∉ "skip past:  --skip ".toList ++ f.skipPast.chars :=
    List.not_mem_append (by decide) (ResumeToken.newline_not_mem_chars h')
  have hlast : ("resume at:  --skip ".toList ++ f.resumeAt.chars).getLast? ≠ some '\r' := by
    rw [List.getLast?_append_of_ne_nil _ f.resumeAt.chars_ne_nil]
    exact ResumeToken.getLast?_chars_ne h
  have hlines : lines f.report.toList = lines (start ++ ['\n']) ++
      ["resume at:  --skip ".toList ++ f.resumeAt.chars,
        "skip past:  --skip ".toList ++ f.skipPast.chars] := by
    rw [hs, lines_append, lines_cons hresume hlast,
      lines_of_not_mem hskip (List.append_ne_nil_of_right_ne_nil _ f.skipPast.chars_ne_nil)]
  have hafter : textAfter? "--skip ".toList ("resume at:  --skip ".toList ++ f.resumeAt.chars) =
      some f.resumeAt.chars := rfl
  rw [printedToken?, hlines, List.reverse_append]
  simp only [List.reverse_cons, List.reverse_nil, List.nil_append, List.cons_append, hafter,
    Option.map_some, ResumeToken.text]

end CaseFailure

namespace Runner

variable {x : Executor σ ε} {drivers : Drivers} {d : Domain}

/-- Only a run whose token is accepted comes to a failure. -/
theorem accepts_of_failed {resume : Option ResumeToken} {s : σ} {f : CaseFailure}
    (hf : (run x drivers d resume s).result = .failed f) (hd : d.ForGcc) : d.Accepts resume := by
  cases resume with
  | none => exact d.accepts_none
  | some t =>
    obtain ht | ⟨ht, p, hp, hne⟩ | ha := token_cases d t
    · rw [run_of_past_end x drivers ht s] at hf
      cases hf
    · rw [run_of_wrong_digest hd x drivers ht hp hne s] at hf
      cases hf
    · exact ha

/-- A failure tells of the first case whose output verification finds something in, of this output, and
of the tokens before and behind the case. -/
theorem failure_of_failed (hd : d.ForGcc) {answer : BuildScript → Except ε Captured}
    (hx : x.Answers answer) {resume : Option ResumeToken} {s : σ} {f : CaseFailure}
    (hf : (run x drivers d resume s).result = .failed f) :
    ∃ i c captured, d.cases[i]? = some c ∧ answer (.ofCase c drivers) = .ok captured ∧
      c.outcome.verify captured ≠ [] ∧
      f = ⟨i, c, ⟨c.outcome, .ofCase c drivers, captured, c.outcome.verify captured⟩,
        d.tokenAt i, d.tokenAt (i + 1)⟩ := by
  obtain ⟨m, -, hend⟩ := exists_ending_run hd x drivers (accepts_of_failed hf hd) s
  generalize run x drivers d resume s = t at hf hend
  cases hend with
  | finished _ => cases hf
  | stopped _ _ => cases hf
  | failed hc ha hv =>
    cases hf
    rw [hx.answerAfter_eq] at ha
    exact ⟨_, _, _, hc, ha, hv, rfl⟩

/-- A run that starts at a case whose output is not as predicted fails there. -/
theorem run_tokenAt_of_not_passed (hd : d.ForGcc) {i : ℕ} {c : Case} {captured : Captured} {s : σ}
    (hc : d.cases[i]? = some c) (ha : (x.execute s (.ofCase c drivers)).1 = .ok captured)
    (hv : c.outcome.verify captured ≠ []) :
    (run x drivers d (some (d.tokenAt i)) s).result =
        .failed ⟨i, c, ⟨c.outcome, .ofCase c drivers, captured, c.outcome.verify captured⟩,
          d.tokenAt i, d.tokenAt (i + 1)⟩ ∧
      (run x drivers d (some (d.tokenAt i)) s).events =
        [.progress i c c.outcome, .execute (.ofCase c drivers)] := by
  have hlt := Domain.lt_caseCount_of_getElem? hc
  obtain ⟨m, hm, hend⟩ := exists_ending_run hd x drivers (Domain.accepts_tokenAt hlt.le) s
  have hfirst : (d.cases.drop i)[0]? = some c := by rw [List.getElem?_drop, Nat.add_zero, hc]
  have hfail : ¬ Executor.Passes (x.execute s (.ofCase c drivers)).1 c := by
    rintro ⟨captured', ha', hv'⟩
    cases ha.symm.trans ha'
    exact hv hv'
  -- The case itself keeps any number of cases from passing.
  obtain rfl : m = 0 := Nat.le_zero.mp (hm.le_of_not_passes hfirst hfail)
  have htake : (d.cases.drop i).take 1 = [c] := by
    rw [List.take_one, List.head?_drop, hc]
    rfl
  generalize run x drivers d (some (d.tokenAt i)) s = t at hend
  cases hend with
  | finished hall => exact absurd hall hlt.ne
  | stopped hc' he =>
    cases hc.symm.trans hc'
    cases ha.symm.trans he
  | failed hc' ha' hv' =>
    cases hc.symm.trans hc'
    cases ha.symm.trans ha'
    exact ⟨rfl, congrArg (caseEvents drivers i) htake⟩

/-- The token that a failure report prints for running the case again does so: it is read from the
option and from the environment, whatever blanks stand around it, and the run from it executes one case
only and fails as before. An index is a machine word. -/
theorem printed_token_reproduces_failure (hd : d.ForGcc)
    {answer : BuildScript → Except ε Captured} (hx : x.Answers answer)
    {resume : Option ResumeToken} {s : σ} {f : CaseFailure}
    (hf : (run x drivers d resume s).result = .failed f)
    (hi : f.index < ResumeToken.indexBound) :
    ∃ text, printedToken? f.report = some text ∧
      (∀ left right, isAllBlank left = true → isAllBlank right = true →
        (∀ environment, ResumeToken.resolve (some (left ++ text ++ right)) environment =
          .ok (some f.resumeAt)) ∧
        ResumeToken.resolve none (some (left ++ text ++ right)) = .ok (some f.resumeAt)) ∧
      ∀ s', (run x drivers d (some f.resumeAt) s').result = .failed f ∧
        (run x drivers d (some f.resumeAt) s').events =
          [.progress f.index f.spec f.spec.outcome, .execute (.ofCase f.spec drivers)] := by
  obtain ⟨i, c, captured, hc, ha, hv, rfl⟩ := failure_of_failed hd hx hf
  have hprint := d.printable_tokenAt i
  refine ⟨(d.tokenAt i).text,
    CaseFailure.printedToken?_report hprint (d.printable_tokenAt (i + 1)), ?_, ?_⟩
  · intro left right hl hr
    exact ResumeToken.resolve_surround hprint hi hl hr
  · intro s'
    exact run_tokenAt_of_not_passed hd hc ((hx s' _).trans ha) hv

theorem printed_token_reproduces_pair :
    Domain.pair.ForGcc ∧
      (Executor.steady.Answers fun _ => .ok ⟨"1\n2\n", "", some 0, false⟩) ∧
      ∃ f, (run Executor.steady {} Domain.pair (some (Domain.pair.tokenAt 1)) ()).result =
          .failed f ∧
        f.index < ResumeToken.indexBound ∧
        ∃ text, printedToken? f.report = some text ∧
          ResumeToken.resolve none (some (" " ++ text ++ "\n")) = .ok (some f.resumeAt) ∧
          (run Executor.steady {} Domain.pair (some f.resumeAt) ()).result = .failed f := by
  have hd : Domain.pair.ForGcc := by decide
  have hf : (run Executor.steady {} Domain.pair (some (Domain.pair.tokenAt 1)) ()).result =
      .failed _ := (run_tokenAt_of_not_passed hd rfl rfl (by decide)).1
  obtain ⟨text, htext, hresolve, hrun⟩ :=
    printed_token_reproduces_failure hd Executor.answers_steady hf (by decide)
  exact ⟨hd, Executor.answers_steady, _, hf, by decide, text, htext,
    (hresolve " " "\n" (by decide) (by decide)).2, (hrun ()).1⟩

end Runner

end InlineLinkage
