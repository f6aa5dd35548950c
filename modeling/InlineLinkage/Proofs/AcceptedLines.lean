import InlineLinkage.Proofs.EnforcedWarnings
import InlineLinkage.Proofs.LineSets
import InlineLinkage.Proofs.OneLine

/-!
# What an accepted output shows

Verification cuts the error stream into lines and looks for some of them with readers. What it accepts is said
here without either: which lines the stream writes, how a line that reports an error is composed, which words a
line of the linker has one after the other, how a working program ends and what it prints.
-/
namespace InlineLinkage

open Text

namespace Text.Pattern

/-- The characters of a text, none of them open. -/
def literal (s : List Char) : Pattern :=
  s.map .char

theorem ofChars_append {s : List Char} (h : '.' ∉ s) (t : List Char) :
    ofChars (s ++ t) = literal s ++ ofChars t := by
  induction s with
  | nil => rfl
  | cons c s ih =>
    obtain ⟨hc, hs⟩ := not_or.mp (List.mem_cons.not.mp h)
    have hstep : ofChars (c :: (s ++ t)) = .char c :: ofChars (s ++ t) := by
      rw [ofChars]
      · rintro u rfl
        contradiction
      · rintro rfl
        contradiction
    rw [List.cons_append, hstep, ih hs]
    rfl

theorem matches_literal_append {s t : List Char} {p : Pattern} :
    Matches (literal s ++ p) t ↔ ∃ rest, t = s ++ rest ∧ Matches p rest := by
  induction s generalizing t with
  | nil => simp [literal]
  | cons c s ih =>
    constructor
    · intro h
      cases h with
      | char c h =>
        obtain ⟨rest, rfl, hrest⟩ := ih.mp h
        exact ⟨rest, rfl, hrest⟩
    · rintro ⟨rest, rfl, hrest⟩
      exact .char c (ih.mpr ⟨rest, rfl, hrest⟩)

theorem matches_anyRun {p : Pattern} {t : List Char} :
    Matches (.anyRun :: p) t ↔ ∃ run rest, t = run ++ rest ∧ '\n' ∉ run ∧ Matches p rest := by
  constructor
  · intro h
    cases h with
    | anyRun run hrun h => exact ⟨run, _, rfl, hrun, h⟩
  · rintro ⟨run, rest, rfl, hrun, h⟩
    exact .anyRun run hrun h

/-- On a line, a text and later another one. -/
theorem foundIn_literal_anyRun_literal {s t line : List Char} (hline : '\n' ∉ line) :
    (literal s ++ .anyRun :: literal t).FoundIn line ↔
      ∃ before between after, line = before ++ s ++ between ++ t ++ after := by
  have hend {rest : List Char} : Matches (literal t) rest ↔ rest = t := by
    have h := matches_literal_append (s := t) (p := []) (t := rest)
    rw [List.append_nil] at h
    rw [h]
    constructor
    · rintro ⟨u, rfl, hu⟩
      cases hu
      exact List.append_nil t
    · rintro rfl
      exact ⟨[], (List.append_nil _).symm, .nil⟩
  constructor
  · rintro ⟨before, stretch, after, rfl, h⟩
    obtain ⟨rest, rfl, hrest⟩ := matches_literal_append.mp h
    obtain ⟨run, u, rfl, -, hu⟩ := matches_anyRun.mp hrest
    obtain rfl := hend.mp hu
    exact ⟨before, run, after, by simp only [List.append_assoc]⟩
  · rintro ⟨before, between, after, rfl⟩
    refine ⟨before, s ++ (between ++ t), after, by simp only [List.append_assoc],
      matches_literal_append.mpr ⟨_, rfl, matches_anyRun.mpr ⟨between, t, rfl, ?_, hend.mpr rfl⟩⟩⟩
    intro h
    apply hline
    simp [h]

end Text.Pattern

namespace ErrorLine

/-- One or more decimal digits. -/
def IsNumber (s : List Char) : Prop :=
  s ≠ [] ∧ ∀ c ∈ s, isDecimalDigit c = true

instance (s : List Char) : Decidable (IsNumber s) :=
  decidable_of_iff (s ≠ [] ∧ s.all isDecimalDigit = true) <| by
    rw [List.all_eq_true, IsNumber]

/-- A line that reports an error in a file: the name of the file with or without its ending, two numbers for
the place, and the message. -/
def Reports (file : String) (line message : List Char) : Prop :=
  ∃ ending ∈ ["", ".c", ".cpp"], ∃ row column : List Char, IsNumber row ∧ IsNumber column ∧
    line = file.toList ++ ending.toList ++ [':'] ++ row ++ [':'] ++ column ++ ": error: ".toList ++
      message

theorem dropStart?_dropExtension_eq_some_iff {s rest : List Char} :
    dropStart? [':'] (dropExtension s) = some rest ↔
      ∃ ending ∈ ["", ".c", ".cpp"], s = ending.toList ++ [':'] ++ rest := by
  rw [dropStart?_eq_some_iff]
  constructor
  · intro h
    unfold dropExtension at h
    cases hcpp : dropStart? ".cpp:".toList s with
    | some t =>
      rw [hcpp] at h
      obtain rfl : t = rest := List.cons.inj h |>.2
      exact ⟨".cpp", by simp, dropStart?_eq_some_iff.mp hcpp⟩
    | none =>
      cases hc : dropStart? ".c:".toList s with
      | some t =>
        rw [hcpp, hc] at h
        obtain rfl : t = rest := List.cons.inj h |>.2
        exact ⟨".c", by simp, dropStart?_eq_some_iff.mp hc⟩
      | none =>
        rw [hcpp, hc] at h
        exact ⟨"", by simp, h⟩
  · rintro ⟨ending, hending, rfl⟩
    simp only [List.mem_cons, List.not_mem_nil, or_false] at hending
    obtain rfl | rfl | rfl := hending
    · rfl
    · rfl
    · rfl

/-- A number is read up to the colon behind it, which is no digit. -/
theorem dropDigits?_bind_dropStart?_eq_some_iff {start s rest : List Char}
    (hcolon : start.head? = some ':') :
    ((dropDigits? s).bind fun t => dropStart? start t) = some rest ↔
      ∃ number, IsNumber number ∧ s = number ++ start ++ rest := by
  constructor
  · intro h
    obtain ⟨t, hdigits, hstart⟩ := Option.bind_eq_some_iff.mp h
    obtain rfl := dropStart?_eq_some_iff.mp hstart
    cases s with
    | nil => cases hdigits
    | cons c s =>
      simp only [dropDigits?] at hdigits
      split at hdigits
      · rename_i hc
        refine ⟨c :: s.takeWhile isDecimalDigit, ⟨List.cons_ne_nil _ _, ?_⟩, ?_⟩
        · exact List.forall_mem_cons.mpr ⟨hc, List.all_eq_true.mp List.all_takeWhile⟩
        · rw [List.append_assoc, ← Option.some.inj hdigits, List.cons_append,
            List.takeWhile_append_dropWhile]
      · cases hdigits
  · rintro ⟨number, ⟨hne, hdigits⟩, rfl⟩
    obtain ⟨c, digits, rfl⟩ := List.exists_cons_of_ne_nil hne
    obtain ⟨hc, hrest⟩ := List.forall_mem_cons.mp hdigits
    obtain ⟨u, rfl⟩ := List.head?_eq_some_iff.mp hcolon
    have hstop : ¬ isDecimalDigit ':' = true := by decide
    have hdrop : dropDigits? (c :: digits ++ ':' :: u ++ rest) = some (':' :: u ++ rest) := by
      rw [List.append_assoc, List.cons_append, dropDigits?, if_pos hc,
        List.dropWhile_append_of_pos hrest, List.cons_append, List.dropWhile_cons_of_neg hstop]
    rw [hdrop]
    exact dropStart?_eq_some_iff.mpr rfl

theorem message?_eq_some_iff {file : String} {line message : List Char} :
    message? file line = some message ↔ Reports file line message := by
  have hread : message? file line =
      (dropStart? file.toList line).bind fun s =>
        (dropStart? [':'] (dropExtension s)).bind fun s =>
          ((dropDigits? s).bind fun s => dropStart? [':'] s).bind fun s =>
            (dropDigits? s).bind fun s => dropStart? ": error: ".toList s := by
    simp only [message?, Option.bind_eq_bind, Option.bind_assoc]
  rw [hread]
  constructor
  · intro h
    obtain ⟨s, hfile, h⟩ := Option.bind_eq_some_iff.mp h
    obtain ⟨t, hending, h⟩ := Option.bind_eq_some_iff.mp h
    obtain ⟨u, hplace, hlater⟩ := Option.bind_eq_some_iff.mp h
    obtain rfl := dropStart?_eq_some_iff.mp hfile
    obtain ⟨ending, hmem, rfl⟩ := dropStart?_dropExtension_eq_some_iff.mp hending
    obtain ⟨row, hrow, rfl⟩ := (dropDigits?_bind_dropStart?_eq_some_iff rfl).mp hplace
    obtain ⟨column, hcolumn, rfl⟩ := (dropDigits?_bind_dropStart?_eq_some_iff rfl).mp hlater
    exact ⟨ending, hmem, row, column, hrow, hcolumn, by simp only [List.append_assoc]⟩
  · rintro ⟨ending, hmem, row, column, hrow, hcolumn, rfl⟩
    have hlater : ((dropDigits? (column ++ ": error: ".toList ++ message)).bind fun s =>
        dropStart? ": error: ".toList s) = some message :=
      (dropDigits?_bind_dropStart?_eq_some_iff rfl).mpr ⟨column, hcolumn, rfl⟩
    have hplace : ((dropDigits? (row ++ [':'] ++ (column ++ ": error: ".toList ++ message))).bind
        fun s => dropStart? [':'] s) = some (column ++ ": error: ".toList ++ message) :=
      (dropDigits?_bind_dropStart?_eq_some_iff rfl).mpr ⟨row, hrow, rfl⟩
    refine Option.bind_eq_some_iff.mpr ⟨_, dropStart?_eq_some_iff.mpr ?_,
      Option.bind_eq_some_iff.mpr ⟨_, dropStart?_dropExtension_eq_some_iff.mpr ⟨ending, hmem, rfl⟩,
        Option.bind_eq_some_iff.mpr ⟨_, hplace, hlater⟩⟩⟩
    simp only [List.append_assoc]

end ErrorLine

/-- On a line of the linker the name of the function stands behind some words. -/
def LinkerLine.Blames (words : String) (line : List Char) : Prop :=
  ∃ before between after,
    line = before ++ words.toList ++ between ++ "foo".toList ++ after

namespace Expectation

theorem foundIn_linkPattern {words : String} (hwords : '.' ∉ words.toList) {line : List Char}
    (hline : '\n' ∉ line) :
    (Pattern.ofString (linkPattern words)).FoundIn line ↔ LinkerLine.Blames (words ++ " ") line := by
  have hpattern : Pattern.ofString (linkPattern words) =
      Pattern.literal (words ++ " ").toList ++ .anyRun :: Pattern.literal "foo".toList := by
    have hspaced : '.' ∉ (words ++ " ").toList := by
      rw [String.toList_append]
      exact List.not_mem_append hwords (by decide)
    have hchars : (linkPattern words).toList = (words ++ " ").toList ++ ".*foo".toList := by
      simp only [linkPattern, symbol, String.toList_append]
      simp
    rw [Pattern.ofString, hchars, Pattern.ofChars_append hspaced]
    rfl
  rw [hpattern, Pattern.foundIn_literal_anyRun_literal hline, LinkerLine.Blames]

/-- Other warnings are tolerated beside a refused file only. -/
theorem toleratesOthers_eq_false_iff {v : Verdict} :
    (ofVerdict v).toleratesOthers = false ↔ v.Compiled := by
  constructor
  · intro h
    cases v with
    | success m => exact .inl ⟨m, rfl⟩
    | diagnostic d =>
      cases d with
      | multipleDefinition => exact .inr (.inl rfl)
      | undefinedReference => exact .inr (.inr rfl)
      | staticInconsistent style => cases style <;> cases h
      | gnuInlineInconsistent style => cases style <;> cases h
      | _ => cases h
  · intro h
    exact (listedOnly_of_compiled h).2

end Expectation

namespace Captured

/-- The output is what a verdict foretells, given the lines of its error stream. -/
def Confirms (c : Captured) (ls : List (List Char)) : Verdict → Prop
  | .success .useInlineDefinition => c.exitCode = some 0 ∧ c.stdout = "1\n2\n"
  | .success .linkOnceEither => c.exitCode = some 0 ∧ c.stdout = "1\n1\n"
  | .diagnostic .multipleDefinition => ∃ l ∈ ls, LinkerLine.Blames "multiple definition " l
  | .diagnostic .undefinedReference => ∃ l ∈ ls, LinkerLine.Blames "undefined reference " l
  | .diagnostic d =>
    c.exitCode ≠ some 0 ∧ ∀ file ∈ ["file1", "file2"],
      (∃ l ∈ ls, ∃ message, ErrorLine.Reports file l message) ∧
        ∀ p ∈ (Expectation.ofDiagnostic d).check.patterns,
          ∃ l ∈ ls, ∃ message, ErrorLine.Reports file l message ∧
            (Pattern.ofString p).FoundIn message

section

variable {c : Captured} {ls : List (List Char)} (h : Writes ls c.stderr.toList)
include h

theorem errorLines_eq : c.errorLines = ls :=
  h.lines_eq

theorem shows_iff_of_writes {pattern : String} :
    c.Shows pattern ↔ ∃ l ∈ ls, (Pattern.ofString pattern).FoundIn l := by
  rw [Shows, errorLines_eq h]

theorem shows_linkPattern_iff {words : String} (hwords : '.' ∉ words.toList) :
    c.Shows (Expectation.linkPattern words) ↔ ∃ l ∈ ls, LinkerLine.Blames (words ++ " ") l := by
  rw [shows_iff_of_writes h]
  refine exists_congr fun l => and_congr_right fun hl => ?_
  rw [← h.lines_eq] at hl
  exact Expectation.foundIn_linkPattern hwords (newline_not_mem_of_mem_lines hl)

theorem showsError_none_iff {file : String} :
    c.ShowsError file none ↔ ∃ l ∈ ls, ∃ message, ErrorLine.Reports file l message := by
  simp only [ShowsError, errorLines_eq h, ErrorLine.message?_eq_some_iff, Option.not_mem_none,
    false_implies, implies_true, and_true]

theorem showsError_some_iff {file pattern : String} :
    c.ShowsError file (some pattern) ↔
      ∃ l ∈ ls, ∃ message, ErrorLine.Reports file l message ∧
        (Pattern.ofString pattern).FoundIn message := by
  simp only [ShowsError, errorLines_eq h, ErrorLine.message?_eq_some_iff, Option.mem_some, forall_eq']

theorem meets_compileErrors_iff {patterns : List String} :
    c.Meets (.compileErrors patterns) ↔
      c.exitCode ≠ some 0 ∧ ∀ file ∈ ["file1", "file2"],
        (∃ l ∈ ls, ∃ message, ErrorLine.Reports file l message) ∧
          ∀ p ∈ patterns, ∃ l ∈ ls, ∃ message, ErrorLine.Reports file l message ∧
            (Pattern.ofString p).FoundIn message := by
  simp only [Meets, Expectation.sourceFiles, showsError_none_iff h, showsError_some_iff h]

/-- The check of a verdict asks for what the verdict foretells. -/
theorem meets_iff_confirms {v : Verdict} :
    c.Meets (Expectation.ofVerdict v).check ↔ c.Confirms ls v := by
  cases v with
  | success m => cases m <;> exact Iff.rfl
  | diagnostic d =>
    cases d with
    | multipleDefinition => exact shows_linkPattern_iff h (by decide)
    | undefinedReference => exact shows_linkPattern_iff h (by decide)
    | staticInconsistent style => cases style <;> exact meets_compileErrors_iff h
    | gnuInlineInconsistent style => cases style <;> exact meets_compileErrors_iff h
    | _ => exact meets_compileErrors_iff h

end

end Captured

namespace Outcome

variable {o : Outcome} {c : Captured}

/-- Every warning is forbidden where none is expected and no file was refused. -/
theorem forbidsWarnings_iff :
    o.forbidsWarnings = true ↔
      o.warnings = .none ∧ (Expectation.ofVerdict o.verdict).implied = [] ∧ o.verdict.Compiled := by
  simp only [forbidsWarnings, Warnings.isEmpty, Bool.and_eq_true, beq_iff_eq, List.isEmpty_iff,
    Bool.not_eq_true', Expectation.toleratesOthers_eq_false_iff, and_assoc]

/-- Verification accepts an output just if the script ended in time, the output is what the verdict foretells,
the warnings that are listed and can be given are there, as well as those that come with the verdict, and
where none is expected of a compiled program there is none. The lines are those that the error stream writes,
and every stream writes just one row of lines. -/
theorem verify_eq_nil_iff_confirms (o : Outcome) (c : Captured) :
    (∃! ls, Writes ls c.stderr.toList) ∧
      ∀ ls, Writes ls c.stderr.toList →
        (o.verify c = [] ↔
          c.timedOut = false ∧ c.Confirms ls o.verdict ∧
            (∀ w, o.warnings.has w = true → w ∉ (Expectation.ofVerdict o.verdict).unreachable →
              ∃ l ∈ ls, (Pattern.ofString w.linePattern).FoundIn l) ∧
            (∀ w ∈ (Expectation.ofVerdict o.verdict).implied,
              ∃ l ∈ ls, (Pattern.ofString w.linePattern).FoundIn l) ∧
            (o.warnings = .none → (Expectation.ofVerdict o.verdict).implied = [] →
              o.verdict.Compiled → ¬ c.SaysWarning)) := by
  refine ⟨⟨lines c.stderr.toList, writes_lines _, fun ls h => h.lines_eq.symm⟩, fun ls h => ?_⟩
  simp only [← Captured.shows_iff_of_writes h]
  rw [verify_eq_nil_iff]
  constructor
  · rintro ⟨htime, hmeets, hshows, hsilent⟩
    refine ⟨htime, (Captured.meets_iff_confirms h).mp hmeets, fun w hw hreach => ?_, fun w hw => ?_,
      fun hn hi hv => ?_⟩
    · exact hshows w (mem_requiredWarnings.mpr (.inl ⟨hw, hreach⟩))
    · exact hshows w (mem_requiredWarnings.mpr (.inr hw))
    · exact hsilent (forbidsWarnings_iff.mpr ⟨hn, hi, hv⟩)
  · rintro ⟨htime, hconfirms, hlisted, himplied, hsilent⟩
    refine ⟨htime, (Captured.meets_iff_confirms h).mpr hconfirms, fun w hw => ?_, fun hf => ?_⟩
    · obtain ⟨hw, hreach⟩ | hw := mem_requiredWarnings.mp hw
      · exact hlisted w hw hreach
      · exact himplied w hw
    · obtain ⟨hn, hi, hv⟩ := forbidsWarnings_iff.mp hf
      exact hsilent hn hi hv

/-- Of two outputs for each of three outcomes, the first is accepted. The others have an error line without a
number, the name of the function in front of the words, and another warning than the one that is listed. The
last output has a warning where none is listed. -/
theorem verify_eq_nil_iff_confirms_pairs :
    let refused : Outcome := ⟨.diagnostic .duplicateInline, .none⟩
    let clashing : Outcome := ⟨.diagnostic .multipleDefinition, .none⟩
    let warned : Outcome := ⟨.success .useInlineDefinition, { inlineNeverDefined := true }⟩
    let silent : Outcome := ⟨.success .useInlineDefinition, .none⟩
    refused.verify ⟨"", "file1.c:1:8: error: duplicate 'inline'\r\nfile2:12:3: error: duplicate 'inline'",
        some 1, false⟩ = [] ∧
      refused.verify ⟨"", "file1.c:1:8: error: duplicate 'inline'\nfile2:x:3: error: duplicate 'inline'",
        some 1, false⟩ =
          [.noCompileError "file2" none, .noCompileError "file2" (some "duplicate .inline")] ∧
      clashing.verify ⟨"", "ld: multiple definition of foo\n", some 1, false⟩ = [] ∧
      clashing.verify ⟨"", "ld: foo has a multiple definition \n", some 1, false⟩ =
          [.noLinkError "multiple definition .*foo"] ∧
      warned.verify ⟨"1\n2\n", "warning: inline function foo declared but never defined", some 0, false⟩ =
          [] ∧
      warned.verify ⟨"1\n2\n", "warning: inline function foo is never used", some 0, false⟩ =
          [.missingWarning .inlineNeverDefined] ∧
      silent.verify ⟨"1\n2\n", "ld: warning: no stack note\n", some 0, false⟩ = [.unexpectedWarning] := by
  intro refused clashing warned silent
  refine ⟨?_, by decide +kernel, ?_, by decide +kernel, ?_, by decide +kernel, by decide +kernel⟩
  · refine ((verify_eq_nil_iff_confirms refused _).2 _ (writes_lines _)).mpr
      ⟨rfl, ⟨by decide, fun file hfile => ?_⟩, fun w hw => ?_, nofun, fun _ _ hv => ?_⟩
    · have hfound : (Pattern.ofString "duplicate .inline").FoundIn "duplicate 'inline'".toList :=
        Pattern.occurs_iff.mp (by decide +kernel)
      obtain ⟨l, hl, hreports⟩ : ∃ l ∈ lines
          "file1.c:1:8: error: duplicate 'inline'\r\nfile2:12:3: error: duplicate 'inline'".toList,
          ErrorLine.Reports file l "duplicate 'inline'".toList := by
        obtain rfl | rfl : file = "file1" ∨ file = "file2" := by simpa using hfile
        · exact ⟨"file1.c:1:8: error: duplicate 'inline'".toList, by decide +kernel, ".c", by simp,
            ['1'], ['8'], by decide, by decide, rfl⟩
        · exact ⟨"file2:12:3: error: duplicate 'inline'".toList, by decide +kernel, "", by simp,
            ['1', '2'], ['3'], by decide, by decide, rfl⟩
      refine ⟨⟨l, hl, _, hreports⟩, fun p hp => ?_⟩
      obtain rfl := List.mem_singleton.mp hp
      exact ⟨l, hl, _, hreports, hfound⟩
    · cases w <;> cases hw
    · exact absurd hv (Verdict.not_compiled_of_not_atLink rfl)
  · refine ((verify_eq_nil_iff_confirms clashing _).2 _ (writes_lines _)).mpr
      ⟨rfl, ⟨"ld: multiple definition of foo".toList, by decide +kernel, "ld: ".toList, "of ".toList, [],
        rfl⟩, fun w hw => ?_, nofun, fun _ _ _ => ?_⟩
    · cases w <;> cases hw
    · exact Captured.mentionsWarning_iff.not.mp (by decide +kernel)
  · refine ((verify_eq_nil_iff_confirms warned _).2 _ (writes_lines _)).mpr
      ⟨rfl, ⟨rfl, rfl⟩, fun w hw _ => ⟨_, List.mem_cons_self, ?_⟩, nofun, nofun⟩
    cases w <;> cases hw
    exact Pattern.occurs_iff.mp (by decide +kernel)

end Outcome

end InlineLinkage
