import InlineLinkage.Proofs.CaseTexts
import InlineLinkage.Proofs.HereDocuments

/-!
# What a script shows of its case

Two cases of one compiler have different scripts, whatever commands replace the usual ones. The declarations
stand on the first two lines of a source file, the ending of its name tells C from C++, and dialect and
level follow the command. Only these two lines change from case to case, so the lines of both files have
fixed numbers, also without a forward declaration.
-/
namespace InlineLinkage

open Text

/-- What is read back from its text is written in a text of its own. -/
theorem injective_of_reads {α β ε : Type} {write : α → β} {read : β → Except ε α}
    (h : ∀ a, read (write a) = .ok a) : Function.Injective write := by
  intro a b hab
  have hread : (Except.ok a : Except ε α) = .ok b := by rw [← h a, hab, h b]
  exact Except.ok.inj hread

theorem Qualifiers.chars_injective : Function.Injective Qualifiers.chars := by
  intro p q h
  have htext : p.text = q.text := congrArg String.ofList h
  exact injective_of_reads ofText_text htext

theorem Dialect.spelling_injective : Function.Injective Dialect.spelling :=
  injective_of_reads ofText_spelling

theorem Level.flag_injective : Function.Injective Level.flag :=
  injective_of_reads ofText_flag

/-- A separator that does not occur before it is found again. -/
theorem Text.append_cons_inj {c : Char} {s s' t t' : List Char} (hs : c ∉ s) (hs' : c ∉ s')
    (h : s ++ c :: t = s' ++ c :: t') : s = s' ∧ t = t' := by
  have hsplit := congrArg (List.splitOn c) h
  rw [List.splitOn_append_cons_self_of_not_mem hs, List.splitOn_append_cons_self_of_not_mem hs'] at hsplit
  obtain rfl := (List.cons.inj hsplit).1
  exact ⟨rfl, (List.cons.inj (List.append_cancel_left h)).2⟩

/-- Lines without line feeds are found again in the text that they are written to. -/
theorem unlines_inj {ls ls' : SourceLines} (hls : ∀ l ∈ ls, '\n' ∉ l) (hls' : ∀ l ∈ ls', '\n' ∉ l)
    (h : unlines ls = unlines ls') : ls = ls' := by
  have hsplit := congrArg (List.splitOn '\n') h
  rw [splitOn_unlines hls, splitOn_unlines hls'] at hsplit
  exact List.append_cancel_right hsplit

theorem Case.toList_flags (c : Case) :
    c.flags.toList = "-std=".toList ++
      (c.dialect.spelling.toList ++ ' ' :: (c.level.flag.toList ++ " -Wall -Wextra".toList)) := by
  simp only [flags, String.toList_append, List.append_assoc]
  rfl

/-- The flags name the dialect and the level. -/
theorem Case.settings_of_flags {c c' : Case} (h : c.flags = c'.flags) :
    c.dialect = c'.dialect ∧ c.level = c'.level := by
  have hblank (d : Dialect) : ' ' ∉ d.spelling.toList := by cases d <;> decide
  have hchars := congrArg String.toList h
  rw [toList_flags, toList_flags] at hchars
  obtain ⟨hdialect, hlevel⟩ :=
    append_cons_inj (hblank _) (hblank _) (List.append_cancel_left hchars)
  exact ⟨Dialect.spelling_injective (String.toList_inj.mp hdialect),
    Level.flag_injective (String.toList_inj.mp (List.append_cancel_right hlevel))⟩

namespace BuildScript

/-- Only a missing forward declaration leaves its line empty. -/
theorem prototypeLine_eq_nil_iff (c : Case) :
    prototypeLine c = [] ↔ c.declarations.prototype = none := by
  unfold prototypeLine
  split
  · rename_i p hp
    simp [hp]
  · rename_i hp
    simp [hp]

theorem prototypeLine_inj {c c' : Case} (h : prototypeLine c = prototypeLine c') :
    c.declarations.prototype = c'.declarations.prototype := by
  cases hp : c.declarations.prototype with
  | none =>
    rw [(prototypeLine_eq_nil_iff c).mpr hp] at h
    exact ((prototypeLine_eq_nil_iff c').mp h.symm).symm
  | some p =>
    cases hp' : c'.declarations.prototype with
    | none =>
      rw [(prototypeLine_eq_nil_iff c').mpr hp', prototypeLine_eq_nil_iff, hp] at h
      cases h
    | some p' =>
      simp only [prototypeLine, hp, hp'] at h
      rw [Qualifiers.chars_injective (List.append_cancel_right h)]

theorem definitionLine_inj {c c' : Case} {number : Char}
    (h : definitionLine c number = definitionLine c' number) :
    c.declarations.definition = c'.declarations.definition := by
  simp only [definitionLine, List.append_assoc] at h
  exact Qualifiers.chars_injective (List.append_cancel_right h)

theorem getLast?_prototypeLine_ne (c : Case) : (prototypeLine c).getLast? ≠ some '\r' := by
  unfold prototypeLine
  split
  · rw [List.getLast?_append_of_ne_nil _ (by decide)]
    decide
  · decide

theorem getLast?_definitionLine_ne (c : Case) (number : Char) :
    (definitionLine c number).getLast? ≠ some '\r' := by
  rw [definitionLine, List.getLast?_append_cons, List.getLast?_cons_of_ne_nil (by decide)]
  decide

/-- The lines of the first file, as a compiler numbers them. -/
theorem lines_file1Lines (c : Case) : lines (unlines (file1Lines c)) = file1Lines c := by
  refine lines_unlines fun l hl => ⟨(quotable_file1Lines c).oneLine l hl, ?_⟩
  revert l
  simp only [file1Lines, List.forall_mem_cons]
  exact ⟨getLast?_prototypeLine_ne c, getLast?_definitionLine_ne c _, by decide, by decide,
    by decide, by decide, by decide, by decide, by decide, List.forall_mem_nil _⟩

theorem lines_file2Lines (c : Case) : lines (unlines (file2Lines c)) = file2Lines c := by
  refine lines_unlines fun l hl => ⟨(quotable_file2Lines c).oneLine l hl, ?_⟩
  revert l
  simp only [file2Lines, List.forall_mem_cons]
  exact ⟨getLast?_prototypeLine_ne c, getLast?_definitionLine_ne c _, by decide, by decide,
    by decide, by decide, List.forall_mem_nil _⟩

/-- Scripts with one text write the same first file, under the same name, and compile it with the same
command. -/
theorem parts_of_text_eq {c c' : Case} {drivers drivers' : Drivers}
    (h : (ofCase c drivers).text = (ofCase c' drivers').text) :
    c.dialect.fileExtension = c'.dialect.fileExtension ∧ file1Lines c = file1Lines c' ∧
      (ofCase c drivers).compileCommand = (ofCase c' drivers').compileCommand := by
  have hread (c : Case) (drivers : Drivers) :=
    HereDocument.readText?_heredocs (newline_not_mem_fileNames c drivers) (quotable_files c drivers)
      ((ofCase c drivers).compileCommand.toList ++ "\n./test\n".toList)
  have hchars : (ofCase c drivers).chars = (ofCase c' drivers').chars := String.ofList_injective h
  have hparts := hread c drivers
  rw [← chars_eq_heredocs, hchars, chars_eq_heredocs] at hparts
  have hsame := (hread c' drivers').symm.trans hparts
  simp only [files, ofCase, List.map_cons, List.map_nil, Option.some.injEq, Prod.mk.injEq,
    List.cons.injEq, HereDocument.mk.injEq] at hsame
  obtain ⟨⟨⟨hname, hlines⟩, -⟩, hcommand⟩ := hsame
  refine ⟨?_, ?_, ?_⟩
  · exact (String.toList_inj.mp (List.append_cancel_left hname)).symm
  · exact (unlines_inj (quotable_file1Lines c').oneLine (quotable_file1Lines c).oneLine hlines).symm
  · exact (String.toList_inj.mp (List.append_cancel_right hcommand)).symm

/-- The same command compiles all dialects whose source files have the same ending. -/
theorem commandFor_eq (drivers : Drivers) {c c' : Case} (hc : c.compiler = c'.compiler)
    (he : c.dialect.fileExtension = c'.dialect.fileExtension) :
    drivers.commandFor c = drivers.commandFor c' := by
  have hcxx : c.dialect.isCxx = c'.dialect.isCxx := by
    unfold Dialect.fileExtension at he
    cases h : c.dialect.isCxx <;> cases h' : c'.dialect.isCxx <;> simp_all
  simp only [Drivers.commandFor, Drivers.command, Compiler.driver, hc, hcxx]

/-- A script belongs to one case of a compiler. -/
theorem text_inj (drivers : Drivers) {c c' : Case} (hc : c.compiler = c'.compiler)
    (h : (ofCase c drivers).text = (ofCase c' drivers).text) : c = c' := by
  obtain ⟨hextension, hlines, hcommand⟩ := parts_of_text_eq h
  have hprototype : prototypeLine c = prototypeLine c' := (List.cons.inj hlines).1
  have hdefinition : definitionLine c '1' = definitionLine c' '1' :=
    (List.cons.inj (List.cons.inj hlines).2).1
  have hflags : c.flags = c'.flags := by
    have hchars := congrArg String.toList hcommand
    simp only [ofCase, commandFor_eq drivers hc hextension, hextension, String.toList_append,
      List.append_assoc] at hchars
    have hrest := List.append_cancel_left (List.append_cancel_left hchars)
    exact String.toList_inj.mp (List.append_cancel_right hrest)
  obtain ⟨hdialect, hlevel⟩ := Case.settings_of_flags hflags
  have hp := prototypeLine_inj hprototype
  have hd := definitionLine_inj hdefinition
  obtain ⟨⟨prototype, definition⟩, compiler, dialect, level⟩ := c
  obtain ⟨⟨prototype', definition'⟩, compiler', dialect', level'⟩ := c'
  subst hp hd hc hdialect hlevel
  rfl

/-- Whatever commands replace the compilers, two cases of one compiler have the same script only if they
are the same: the forward declaration, missing, empty or not, the definition with the order and the
repetitions of its words, dialect and level can all be told from it. The first file has nine lines and
the second six. The first line is the same in both and empty only without a forward declaration, the
second has the qualifiers of the definition as written and the number of its file, and all others are the
same for every case. -/
theorem script_determines_case :
    (∀ (drivers : Drivers) (c c' : Case), c.compiler = c'.compiler →
      ((ofCase c drivers).text = (ofCase c' drivers).text ↔ c = c')) ∧
    ∃ later1 later2 : SourceLines, later1.length = 7 ∧ later2.length = 4 ∧
      ∀ (c : Case) (drivers : Drivers),
        (prototypeLine c = [] ↔ c.declarations.prototype = none) ∧
        lines (unlines (ofCase c drivers).file1) =
          prototypeLine c ::
            (c.declarations.definition.chars ++ " int foo() \x7b return 1; \x7d".toList) :: later1 ∧
        lines (unlines (ofCase c drivers).file2) =
          prototypeLine c ::
            (c.declarations.definition.chars ++ " int foo() \x7b return 2; \x7d".toList) :: later2 := by
  constructor
  · intro drivers c c' hc
    constructor
    · exact text_inj drivers hc
    · rintro rfl
      rfl
  -- What stands behind the first two lines does not look at the case.
  let c₀ : Case := ⟨⟨none, []⟩, .gcc, .c89, .o0⟩
  refine ⟨(file1Lines c₀).drop 2, (file2Lines c₀).drop 2, rfl, rfl, fun c drivers => ?_⟩
  have hline (number : Char) : definitionLine c number = c.declarations.definition.chars ++
      (" int foo() \x7b return ".toList ++ number :: "; \x7d".toList) := by
    rw [definitionLine, List.append_assoc]
  refine ⟨prototypeLine_eq_nil_iff c, ?_, ?_⟩
  · have hlines : (ofCase c drivers).file1 = file1Lines c := rfl
    rw [hlines, lines_file1Lines, file1Lines, hline]
    rfl
  · have hlines : (ofCase c drivers).file2 = file2Lines c := rfl
    rw [hlines, lines_file2Lines, file2Lines, hline]
    rfl

/-- No forward declaration and one without qualifiers are told apart, also behind a command that is given. -/
theorem script_determines_case_bare :
    let drivers : Drivers := ⟨some "gcc-13 -std=c99", none⟩
    let c : Case := ⟨⟨none, [.inlineKeyword]⟩, .gcc, .c11, .o0⟩
    let c' : Case := ⟨⟨some [], [.inlineKeyword]⟩, .gcc, .c11, .o0⟩
    c.compiler = c'.compiler ∧ (ofCase c drivers).text ≠ (ofCase c' drivers).text := by
  intro drivers c c'
  have hc : c.compiler = c'.compiler := rfl
  have hne : c ≠ c' := by decide
  exact ⟨hc, fun h => hne ((script_determines_case.1 drivers c c' hc).mp h)⟩

end BuildScript

end InlineLinkage
