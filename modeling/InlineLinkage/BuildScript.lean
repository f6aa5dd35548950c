import InlineLinkage.Case

/-!
# Build scripts

The two source files of a case and the shell script that writes them, compiles them and runs the
result. The lines of the files are fixed, because diagnostics are recognized by file: a missing forward
declaration leaves its line empty.
-/
namespace InlineLinkage

/-- Commands that replace the usual ones for C and for C++. -/
structure Drivers where
  c : Option String := none
  cxx : Option String := none
  deriving DecidableEq, Repr

namespace Drivers

/-- The command that compiles a dialect. -/
def command (ds : Drivers) (compiler : Compiler) (dialect : Dialect) : String :=
  (if dialect.isCxx then ds.cxx else ds.c).getD (compiler.driver dialect)

def commandFor (ds : Drivers) (c : Case) : String :=
  ds.command c.compiler c.dialect

end Drivers

/-- A source file by its lines. -/
abbrev SourceLines := List (List Char)

/-- Lines, each ended by a line feed. -/
def unlines (lines : SourceLines) : List Char :=
  lines.flatMap fun line => line ++ ['\n']

/-- The files of a case and the command that compiles them. -/
structure BuildScript where
  file1 : SourceLines
  file2 : SourceLines
  fileExtension : String
  compileCommand : String
  deriving DecidableEq, Repr

namespace BuildScript

/-- The line of the forward declaration. -/
def prototypeLine (c : Case) : List Char :=
  match c.declarations.prototype with
  | some p => p.chars ++ " int foo();".toList
  | none => []

/-- The line of the definition, whose function returns the number of its file. -/
def definitionLine (c : Case) (number : Char) : List Char :=
  c.declarations.definition.chars ++ " int foo() \x7b return ".toList ++ number :: "; \x7d".toList

/-- The first file has the main program. -/
def file1Lines (c : Case) : SourceLines :=
  [prototypeLine c, definitionLine c '1', "void file2(void);".toList, "#include <stdio.h>".toList,
    "int main() \x7b".toList, "  printf(\"%d\\n\", foo());".toList, "  file2();".toList,
    "  return 0;".toList, "\x7d".toList]

/-- The second file calls its own function once. -/
def file2Lines (c : Case) : SourceLines :=
  [prototypeLine c, definitionLine c '2', "#include <stdio.h>".toList, "void file2() \x7b".toList,
    "  printf(\"%d\\n\", foo());".toList, "\x7d".toList]

/-- The script of a case. -/
def ofCase (c : Case) (drivers : Drivers) : BuildScript :=
  let extension := c.dialect.fileExtension
  { file1 := file1Lines c
    file2 := file2Lines c
    fileExtension := extension
    compileCommand := drivers.commandFor c ++ " " ++ c.flags ++ " file1" ++ extension ++ " file2" ++
      extension ++ " -o test" }

/-- The line that ends the text of a file in a script. -/
def delimiter : List Char := "EOF".toList

/-- The commands that write a file. The quotes keep the shell from changing the text. -/
def heredoc (name : List Char) (lines : SourceLines) : List Char :=
  "cat > ".toList ++ name ++ " <<'EOF'\n".toList ++ unlines lines ++ delimiter ++ ['\n', '\n']

/-- The whole script. -/
def chars (b : BuildScript) : List Char :=
  heredoc ("file1".toList ++ b.fileExtension.toList) b.file1 ++
    heredoc ("file2".toList ++ b.fileExtension.toList) b.file2 ++
    b.compileCommand.toList ++ "\n./test\n".toList

def text (b : BuildScript) : String :=
  String.ofList b.chars

end BuildScript

end InlineLinkage
