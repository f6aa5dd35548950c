import InlineLinkage.Proofs.LineText

/-!
# The files that a script writes

A script holds its source files as here-documents. A reader who knows only how those are written finds
the files again, line for line, and what is left is the rest of the script: no line of a file is equal to
the one that ends it. The commands that replace a compiler stand behind both files, so no text in them
changes what is written.
-/
namespace InlineLinkage

open Text

/-- A file that a here-document writes. -/
structure HereDocument where
  name : List Char
  contents : List Char
  deriving DecidableEq, Repr

namespace HereDocument

open BuildScript (delimiter)

/-- The line before the contents of a file. -/
def heading (name : List Char) : List Char :=
  "cat > ".toList ++ name ++ " <<'EOF'".toList

/-- The file that a line announces. -/
def name? (line : List Char) : Option (List Char) :=
  (dropStart? "cat > ".toList line).bind fun rest =>
    (dropStart? " <<'EOF'".toList.reverse rest.reverse).map List.reverse

/-- The lines up to the first `EOF`, and those after it. -/
def cutBody : SourceLines → Option (SourceLines × SourceLines)
  | [] => none
  | line :: rest =>
    if line = delimiter then some ([], rest)
    else (cutBody rest).map fun cut => (line :: cut.1, cut.2)

/-- Reads a document from its heading to its last line. -/
def read? : SourceLines → Option (HereDocument × SourceLines)
  | [] => none
  | line :: rest =>
    match name? line, cutBody rest with
    | some name, some cut => some (⟨name, unlines cut.1⟩, cut.2)
    | _, _ => none

/-- Reads a number of documents, each with an empty line after it. -/
def readLines? : ℕ → SourceLines → Option (List HereDocument × SourceLines)
  | 0, ls => some ([], ls)
  | count + 1, ls =>
    match read? ls with
    | some (d, [] :: rest) => (readLines? count rest).map fun read => (d :: read.1, read.2)
    | _ => none

/-- The documents at the start of a text, and the text after them. -/
def readText? (count : ℕ) (s : List Char) : Option (List HereDocument × List Char) :=
  (readLines? count (s.splitOn '\n')).map fun read => (read.1, ['\n'].intercalate read.2)

/-- Lines that come back from a here-document. -/
structure Quotable (ls : SourceLines) : Prop where
  oneLine : ∀ l ∈ ls, '\n' ∉ l
  not_delimiter : ∀ l ∈ ls, l ≠ delimiter

theorem name?_heading (name : List Char) : name? (heading name) = some name := by
  have hstart : dropStart? "cat > ".toList (heading name) = some (name ++ " <<'EOF'".toList) :=
    dropStart?_eq_some_iff.mpr (List.append_assoc ..)
  have hend : dropStart? " <<'EOF'".toList.reverse (name ++ " <<'EOF'".toList).reverse =
      some name.reverse :=
    dropStart?_eq_some_iff.mpr List.reverse_append
  rw [name?, hstart, Option.bind_some, hend, Option.map_some, List.reverse_reverse]

theorem cutBody_append {ls : SourceLines} (h : ∀ l ∈ ls, l ≠ delimiter) (rest : SourceLines) :
    cutBody (ls ++ delimiter :: rest) = some (ls, rest) := by
  induction ls with
  | nil => rw [List.nil_append, cutBody, if_pos rfl]
  | cons l ls ih =>
    obtain ⟨hl, hls⟩ := List.forall_mem_cons.mp h
    rw [List.cons_append, cutBody, if_neg hl, ih hls]
    rfl

/-- The lines of a here-document and the empty line after it. -/
def scriptLines (name : List Char) (ls : SourceLines) : SourceLines :=
  heading name :: (ls ++ [delimiter, []])

theorem read?_scriptLines (name : List Char) {ls : SourceLines} (h : Quotable ls)
    (rest : SourceLines) :
    read? (scriptLines name ls ++ rest) = some (⟨name, unlines ls⟩, [] :: rest) := by
  have hcut := cutBody_append h.not_delimiter ([] :: rest)
  rw [scriptLines, List.cons_append, List.append_assoc, read?, name?_heading]
  simp only [List.cons_append, List.nil_append, hcut]

theorem heredoc_eq_unlines (name : List Char) (ls : SourceLines) :
    BuildScript.heredoc name ls = unlines (scriptLines name ls) := by
  have hend : " <<'EOF'\n".toList = " <<'EOF'".toList ++ ['\n'] := by decide
  unfold BuildScript.heredoc scriptLines heading
  simp only [hend, unlines_cons, unlines_append, List.append_assoc, List.cons_append,
    List.nil_append]
  rfl

/-- Documents are read back one after the other, and the text behind them is left. -/
theorem readLines?_flatMap {files : List (List Char × SourceLines)}
    (h : ∀ file ∈ files, Quotable file.2) (rest : SourceLines) :
    readLines? files.length ((files.flatMap fun file => scriptLines file.1 file.2) ++ rest) =
      some (files.map fun file => ⟨file.1, unlines file.2⟩, rest) := by
  induction files with
  | nil => rfl
  | cons file files ih =>
    obtain ⟨hfile, hfiles⟩ := List.forall_mem_cons.mp h
    rw [List.flatMap_cons, List.append_assoc, List.length_cons, readLines?,
      read?_scriptLines file.1 hfile]
    simp only [ih hfiles, Option.map_some, List.map_cons]

theorem readText?_heredocs {files : List (List Char × SourceLines)}
    (hnames : ∀ file ∈ files, '\n' ∉ file.1) (h : ∀ file ∈ files, Quotable file.2)
    (rest : List Char) :
    readText? files.length ((files.flatMap fun file => BuildScript.heredoc file.1 file.2) ++ rest) =
      some (files.map fun file => ⟨file.1, unlines file.2⟩, rest) := by
  have hlines : ∀ l ∈ files.flatMap fun file => scriptLines file.1 file.2, '\n' ∉ l := by
    intro l hl
    obtain ⟨file, hfile, hl⟩ := List.mem_flatMap.mp hl
    have hheading : '\n' ∉ heading file.1 :=
      List.not_mem_append (List.not_mem_append (by decide) (hnames file hfile)) (by decide)
    simp only [scriptLines, List.mem_cons, List.mem_append, List.not_mem_nil, or_false] at hl
    obtain rfl | hl | rfl | rfl := hl
    · exact hheading
    · exact (h file hfile).oneLine l hl
    · decide
    · exact List.not_mem_nil
  have htext : (files.flatMap fun file => BuildScript.heredoc file.1 file.2) =
      unlines (files.flatMap fun file => scriptLines file.1 file.2) := by
    simp only [heredoc_eq_unlines, unlines, List.flatMap_assoc]
  rw [readText?, htext, splitOn_unlines_append hlines, readLines?_flatMap h, Option.map_some,
    List.intercalate_splitOn]

/-- Only a whole line ends a document, and only the documents that are asked for are read. -/
example : readText? 1 "cat > a <<'EOF'\nEOF \nEOF\n\ncat > b <<'EOF'\n".toList =
    some ([⟨"a".toList, "EOF \n".toList⟩], "cat > b <<'EOF'\n".toList) := by
  decide

end HereDocument

theorem Text.newline_not_mem_unwords {ws : List (List Char)} (h : ∀ w ∈ ws, '\n' ∉ w) :
    '\n' ∉ unwords ws := by
  induction ws with
  | nil => exact List.not_mem_nil
  | cons w ws ih =>
    obtain ⟨hw, hws⟩ := List.forall_mem_cons.mp h
    cases ws with
    | nil => exact hw
    | cons w' ws =>
      exact List.not_mem_append hw (List.not_mem_cons_of_ne_of_not_mem (by decide) (ih hws))

theorem Qualifiers.newline_not_mem_chars (qs : Qualifiers) : '\n' ∉ qs.chars := by
  refine newline_not_mem_unwords (List.forall_mem_map.mpr fun q _ => ?_)
  cases q <;> decide

namespace BuildScript

open HereDocument (Quotable)

theorem newline_not_mem_prototypeLine (c : Case) : '\n' ∉ prototypeLine c := by
  unfold prototypeLine
  split
  · exact List.not_mem_append (Qualifiers.newline_not_mem_chars _) (by decide)
  · exact List.not_mem_nil

/-- The line of a declaration ends in a character that the delimiter does not have. -/
theorem prototypeLine_ne_delimiter (c : Case) : prototypeLine c ≠ delimiter := by
  unfold prototypeLine
  split
  · intro h
    have hend : ';' ∈ delimiter := h ▸ List.mem_append_right _ (by decide)
    exact absurd hend (by decide)
  · decide

theorem newline_not_mem_definitionLine (c : Case) {number : Char} (h : number ≠ '\n') :
    '\n' ∉ definitionLine c number := by
  refine List.not_mem_append (List.not_mem_append (Qualifiers.newline_not_mem_chars _) (by decide)) ?_
  exact List.not_mem_cons_of_ne_of_not_mem h.symm (by decide)

theorem definitionLine_ne_delimiter (c : Case) (number : Char) :
    definitionLine c number ≠ delimiter := by
  intro h
  have hend : ';' ∈ delimiter := by
    rw [← h]
    exact List.mem_append_right _ (List.mem_cons_of_mem _ (by decide))
  exact absurd hend (by decide)

theorem quotable_file1Lines (c : Case) : Quotable (file1Lines c) where
  oneLine := by
    simp only [file1Lines, List.forall_mem_cons]
    exact ⟨newline_not_mem_prototypeLine c, newline_not_mem_definitionLine c (by decide), by decide,
      by decide, by decide, by decide, by decide, by decide, by decide, List.forall_mem_nil _⟩
  not_delimiter := by
    simp only [file1Lines, List.forall_mem_cons]
    exact ⟨prototypeLine_ne_delimiter c, definitionLine_ne_delimiter c _, by decide, by decide,
      by decide, by decide, by decide, by decide, by decide, List.forall_mem_nil _⟩

theorem quotable_file2Lines (c : Case) : Quotable (file2Lines c) where
  oneLine := by
    simp only [file2Lines, List.forall_mem_cons]
    exact ⟨newline_not_mem_prototypeLine c, newline_not_mem_definitionLine c (by decide), by decide,
      by decide, by decide, by decide, List.forall_mem_nil _⟩
  not_delimiter := by
    simp only [file2Lines, List.forall_mem_cons]
    exact ⟨prototypeLine_ne_delimiter c, definitionLine_ne_delimiter c _, by decide, by decide,
      by decide, by decide, List.forall_mem_nil _⟩

/-- The files that a script writes, by their lines. -/
def files (b : BuildScript) : List (List Char × SourceLines) :=
  [("file1".toList ++ b.fileExtension.toList, b.file1),
    ("file2".toList ++ b.fileExtension.toList, b.file2)]

theorem chars_eq_heredocs (b : BuildScript) :
    b.chars = (b.files.flatMap fun file => heredoc file.1 file.2) ++
      (b.compileCommand.toList ++ "\n./test\n".toList) := by
  simp only [chars, files, List.flatMap_cons, List.flatMap_nil, List.append_nil, List.append_assoc]

theorem quotable_files (c : Case) (drivers : Drivers) :
    ∀ file ∈ (ofCase c drivers).files, Quotable file.2 := by
  simp only [files, List.forall_mem_cons]
  exact ⟨quotable_file1Lines c, quotable_file2Lines c, List.forall_mem_nil _⟩

theorem newline_not_mem_fileNames (c : Case) (drivers : Drivers) :
    ∀ file ∈ (ofCase c drivers).files, '\n' ∉ file.1 := by
  have hextension : '\n' ∉ c.dialect.fileExtension.toList := by
    cases c.dialect <;> decide
  simp only [files, List.forall_mem_cons]
  exact ⟨List.not_mem_append (by decide) hextension, List.not_mem_append (by decide) hextension,
    List.forall_mem_nil _⟩

/-- The script of a case writes exactly its two files. Read as here-documents, each with an empty line
after it, the text gives the first file and then the second, and all that is left is the command that
compiles them and the one that runs the result. No qualifiers and no driver, whatever its text, change
what is written. -/
theorem text_reads_back (c : Case) (drivers : Drivers) :
    let script := ofCase c drivers
    let extension := c.dialect.fileExtension.toList
    HereDocument.readText? 2 script.text.toList =
      some ([⟨"file1".toList ++ extension, unlines script.file1⟩,
          ⟨"file2".toList ++ extension, unlines script.file2⟩],
        script.compileCommand.toList ++ "\n./test\n".toList) := by
  intro script extension
  have hread := HereDocument.readText?_heredocs (newline_not_mem_fileNames c drivers)
    (quotable_files c drivers) (script.compileCommand.toList ++ "\n./test\n".toList)
  rw [text, String.toList_ofList, chars_eq_heredocs]
  exact hread

end BuildScript

end InlineLinkage
