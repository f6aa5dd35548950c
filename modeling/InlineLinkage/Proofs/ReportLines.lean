import InlineLinkage.Proofs.LineText
import InlineLinkage.Proofs.OneLine

/-!
# What a report quotes

A report is headings, each with the lines that it quotes below it. Only quoted lines are indented, so a
reader who knows nothing of the case finds the headings again and, below each, the lines one by one,
whatever the program and the compiler printed.
-/
namespace InlineLinkage

open Text

/-- A heading of a report and the lines that it quotes. -/
structure ReportSection where
  heading : List Char
  quoted : List (List Char)
  deriving DecidableEq, Repr

/-- A line that is not indented. -/
def isHeading (line : List Char) : Bool :=
  (dropStart? indentation line).isNone

/-- Reads the lines of a report from the last to the first. Indented lines belong to the heading before
them, and those before any heading come apart. -/
def readSections : List (List Char) → List (List Char) × List ReportSection
  | [] => ([], [])
  | line :: rest =>
    match dropStart? indentation line with
    | some quoted => (quoted :: (readSections rest).1, (readSections rest).2)
    | none => ([], ⟨line, (readSections rest).1⟩ :: (readSections rest).2)

/-- The lines of a section, without indentation and with it. -/
def ReportSection.toLines (s : ReportSection) : List (List Char) :=
  s.heading :: s.quoted.map (indentation ++ ·)

/-- Neither the heading nor a quoted line has a line feed. -/
structure ReportSection.OneLine (s : ReportSection) : Prop where
  heading : '\n' ∉ s.heading
  quoted : ∀ l ∈ s.quoted, '\n' ∉ l

theorem ReportSection.OneLine.toLines {s : ReportSection} (h : s.OneLine) :
    ∀ l ∈ s.toLines, '\n' ∉ l := by
  refine List.forall_mem_cons.mpr ⟨h.heading, List.forall_mem_map.mpr fun l hl => ?_⟩
  exact List.not_mem_append (by decide) (h.quoted l hl)

theorem readSections_heading {heading : List Char} (h : isHeading heading = true)
    (rest : List (List Char)) :
    readSections (heading :: rest) =
      ([], ⟨heading, (readSections rest).1⟩ :: (readSections rest).2) := by
  rw [readSections, Option.isNone_iff_eq_none.mp h]

theorem readSections_quoted (quoted rest : List (List Char)) :
    readSections (quoted.map (indentation ++ ·) ++ rest) =
      (quoted ++ (readSections rest).1, (readSections rest).2) := by
  induction quoted with
  | nil => rfl
  | cons line quoted ih =>
    have hline : dropStart? indentation (indentation ++ line) = some line :=
      dropStart?_eq_some_iff.mpr rfl
    rw [List.map_cons, List.cons_append, readSections, hline, ih]
    rfl

/-- Sections are read back from their lines. -/
theorem readSections_toLines {ss : List ReportSection} (h : ∀ s ∈ ss, isHeading s.heading = true) :
    readSections (ss.flatMap ReportSection.toLines) = ([], ss) := by
  induction ss with
  | nil => rfl
  | cons s ss ih =>
    obtain ⟨hs, hss⟩ := List.forall_mem_cons.mp h
    rw [List.flatMap_cons, ReportSection.toLines, List.cons_append, readSections_heading hs,
      readSections_quoted, ih hss, List.append_nil]

/-- A quoted heading stays a quoted line. -/
example : readSections ["stdout:".toList, "    stderr:".toList, "    ".toList, "stderr:".toList] =
    ([], [⟨"stdout:".toList, ["stderr:".toList, []]⟩, ⟨"stderr:".toList, []⟩]) := by
  decide

/-- The headings are the lines without indentation. -/
theorem map_heading_readSections (ls : List (List Char)) :
    (readSections ls).2.map ReportSection.heading = ls.filter isHeading := by
  induction ls with
  | nil => rfl
  | cons line ls ih =>
    cases h : dropStart? indentation line with
    | some quoted =>
      have hline : ¬ isHeading line = true := by simp [isHeading, h]
      rw [readSections, h, List.filter_cons_of_neg hline, ih]
    | none =>
      have hline : isHeading line = true := by simp [isHeading, h]
      rw [readSections_heading hline, List.map_cons, List.filter_cons_of_pos hline, ih]

theorem indentChars_eq_unlines (s : List Char) :
    indentChars s = unlines ((lines s).map (indentation ++ ·)) := by
  rw [indentChars, unlines, List.flatMap_map]

namespace CaseRun

/-- The heading over the failures, or in the place of them. -/
def resultHeading (failures : List Failure) : List Char :=
  if failures = [] then "result:    pass".toList else "failures:".toList

/-- The failures under their heading. -/
def resultSection (failures : List Failure) : ReportSection :=
  ⟨resultHeading failures, failures.map fun f => "- ".toList ++ f.chars⟩

/-- The sections of the report of an executed case. -/
def sections (c : Case) (r : CaseRun) : List ReportSection :=
  [⟨"case:      ".toList ++ c.chars, []⟩,
    ⟨"predicted: ".toList ++ r.outcome.chars, []⟩,
    ⟨"script:".toList, Text.lines r.script.chars⟩,
    ⟨"stdout:".toList, Text.lines r.captured.stdout.toList⟩,
    ⟨"stderr:".toList, Text.lines r.captured.stderr.toList⟩,
    ⟨"exit code: ".toList ++ exitChars r.captured, []⟩,
    resultSection r.failures]

theorem resultChars_eq_unlines (failures : List Failure) :
    resultChars failures = unlines (resultSection failures).toLines := by
  cases failures with
  | nil => decide
  | cons f fs =>
    have hheading : "failures:\n".toList = "failures:".toList ++ ['\n'] := by decide
    have hdash : "- ".toList = ['-', ' '] := by decide
    rw [resultChars, if_neg (by simp), resultSection, resultHeading, if_neg (List.cons_ne_nil f fs),
      ReportSection.toLines, unlines_cons, unlines, hheading, hdash]
    simp only [List.flatMap_map, List.append_assoc, List.singleton_append]

theorem reportChars_eq_unlines (c : Case) (r : CaseRun) :
    r.reportChars c = unlines ((r.sections c).flatMap ReportSection.toLines) := by
  -- The texts between the parts hold the ends of lines, and a text of lines has none inside them.
  have hpredicted : "\npredicted: ".toList = '\n' :: "predicted: ".toList := rfl
  have hscript : "\nscript:\n".toList = '\n' :: ("script:".toList ++ ['\n']) := rfl
  have hstdout : "stdout:\n".toList = "stdout:".toList ++ ['\n'] := rfl
  have hstderr : "stderr:\n".toList = "stderr:".toList ++ ['\n'] := rfl
  unfold reportChars
  rw [hpredicted, hscript, hstdout, hstderr, resultChars_eq_unlines]
  simp only [sections, List.flatMap_cons, List.flatMap_nil, ReportSection.toLines, unlines_append,
    unlines_cons, indentChars_eq_unlines, List.map_nil, List.append_assoc, List.cons_append,
    List.nil_append, List.append_nil]

theorem isHeading_resultHeading (failures : List Failure) :
    isHeading (resultHeading failures) = true := by
  unfold resultHeading
  split
  · rfl
  · rfl

/-- No heading starts with the indentation, whatever follows on its line. -/
theorem isHeading_sections (c : Case) (r : CaseRun) :
    ∀ s ∈ r.sections c, isHeading s.heading = true := by
  simp only [sections, List.forall_mem_cons]
  exact ⟨rfl, rfl, rfl, rfl, rfl, rfl, isHeading_resultHeading r.failures, List.forall_mem_nil _⟩

theorem newline_not_mem_resultHeading (failures : List Failure) : '\n' ∉ resultHeading failures := by
  unfold resultHeading
  split
  · decide
  · decide

theorem oneLine_resultSection {failures : List Failure} (h : ∀ f ∈ failures, '\n' ∉ f.chars) :
    (resultSection failures).OneLine where
  heading := newline_not_mem_resultHeading failures
  quoted := by
    refine List.forall_mem_map.mpr fun f hf => ?_
    exact List.not_mem_append (by decide) (h f hf)

/-- Quoted lines are lines, and a verification reports each failure on one. -/
theorem oneLine_sections (c : Case) (o : Outcome) (script : BuildScript) (captured : Captured) :
    ∀ s ∈ (ofCaptured o script captured).sections c, s.OneLine := by
  have hquote {heading : List Char} (h : '\n' ∉ heading) (s : List Char) :
      ReportSection.OneLine ⟨heading, Text.lines s⟩ := ⟨h, fun _ => newline_not_mem_of_mem_lines⟩
  have halone {heading : List Char} (h : '\n' ∉ heading) : ReportSection.OneLine ⟨heading, []⟩ :=
    ⟨h, List.forall_mem_nil _⟩
  simp only [sections, List.forall_mem_cons]
  refine ⟨halone ?_, halone ?_, hquote (by decide) _, hquote (by decide) _, hquote (by decide) _,
    halone ?_, oneLine_resultSection fun f => Outcome.newline_not_mem_of_mem_verify,
    List.forall_mem_nil _⟩
  · exact List.not_mem_append (by decide) c.newline_not_mem_chars
  · exact List.not_mem_append (by decide) o.newline_not_mem_chars
  · exact List.not_mem_append (by decide) (newline_not_mem_exitChars captured)

/-- A report is read back from its text: the headings are the lines without indentation, there is one of
each in a fixed order, and below them stand the lines of the script and of both streams and the failures,
one for one. No text that is quoted, whatever it says, adds a heading, hides one or moves a line. -/
theorem report_reads_back (c : Case) (o : Outcome) (drivers : Drivers) (captured : Captured) :
    let script := BuildScript.ofCase c drivers
    let failures := o.verify captured
    let result := if failures = [] then "result:    pass".toList else "failures:".toList
    let text := (report c (.ofCaptured o script captured)).toList
    text.getLast? = some '\n' ∧ ∃ ls, text.splitOn '\n' = ls ++ [[]] ∧
      ls.filter isHeading =
        ["case:      ".toList ++ c.chars, "predicted: ".toList ++ o.chars, "script:".toList,
          "stdout:".toList, "stderr:".toList, "exit code: ".toList ++ exitChars captured, result] ∧
      readSections ls = ([],
        [⟨"case:      ".toList ++ c.chars, []⟩, ⟨"predicted: ".toList ++ o.chars, []⟩,
          ⟨"script:".toList, Text.lines script.chars⟩,
          ⟨"stdout:".toList, Text.lines captured.stdout.toList⟩,
          ⟨"stderr:".toList, Text.lines captured.stderr.toList⟩,
          ⟨"exit code: ".toList ++ exitChars captured, []⟩,
          ⟨result, failures.map fun f => "- ".toList ++ f.chars⟩]) := by
  intro script failures result text
  have htext : text = unlines (((ofCaptured o script captured).sections c).flatMap
      ReportSection.toLines) := by
    rw [← reportChars_eq_unlines]
    exact String.toList_ofList
  have hread := readSections_toLines (isHeading_sections c (ofCaptured o script captured))
  rw [htext]
  refine ⟨getLast?_unlines (List.cons_ne_nil _ _), _, splitOn_unlines fun l hl => ?_, ?_, hread⟩
  · obtain ⟨s, hs, hl⟩ := List.mem_flatMap.mp hl
    exact (oneLine_sections c o script captured s hs).toLines l hl
  · rw [← map_heading_readSections, hread]
    rfl

end CaseRun

end InlineLinkage
