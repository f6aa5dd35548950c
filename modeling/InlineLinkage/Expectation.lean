import InlineLinkage.Outcome
import InlineLinkage.Text.Pattern

/-!
# Expectations

The messages by which an outcome is recognized in the output of the toolchain. This is the one place
that knows the wording of the compiler.
-/
namespace InlineLinkage

/-- What the output of a verdict must show. -/
inductive Check where
  /-- The build fails, and in each source file each pattern fits the message of an error line. -/
  | compileErrors (patterns : List String)
  /-- A line of the linker fits the pattern, with the name of the function after it. -/
  | linkError (pattern : String)
  /-- The program runs and prints exactly this. -/
  | prints (stdout : String)
  deriving DecidableEq, Repr

structure Expectation where
  check : Check
  /-- Warnings that come with the diagnostic although the outcome does not list them. -/
  implied : List Warning := []
  /-- Listed warnings that the toolchain cannot give together with the diagnostic. -/
  unreachable : List Warning := []
  /-- Further warnings may come with the diagnostic. -/
  toleratesOthers : Bool := false
  deriving DecidableEq, Repr

namespace Expectation

/-- The names of the source files, without their ending. -/
def sourceFiles : List String := ["file1", "file2"]

/-- The function that the linker names. -/
def symbol : String := "foo"

/-- Forced inlining is looked at only after a file was compiled. -/
def compiling (patterns : List String) : Expectation :=
  { check := .compileErrors patterns
    unreachable := [.alwaysInlineIgnored]
    toleratesOthers := true }

def staticFollowsNonStatic : String :=
  "static declaration .* follows non-static declaration"

def ofDiagnostic : Diagnostic → Expectation
  | .inlineNotSupported =>
    -- No attribute is read after a syntax error.
    { compiling [] with
      unreachable := [.gnuInlineIgnored, .alwaysInlineIgnored, .inlineNeverDefined] }
  | .multipleStorageClasses => compiling ["multiple storage classes .*declaration"]
  | .conflictingSpecifiers =>
    -- The declaration is dropped before its attributes are read.
    { compiling ["conflicting specifiers in declaration"] with
      unreachable := [.gnuInlineIgnored, .alwaysInlineIgnored] }
  | .duplicateInline => compiling ["duplicate .inline"]
  | .staticInconsistent .plain => compiling [staticFollowsNonStatic]
  | .staticInconsistent .externQualified =>
    compiling ["was declared .extern. and later .static."]
  | .staticInconsistent .neverDefined =>
    { compiling [staticFollowsNonStatic] with implied := [.inlineNeverDefined] }
  | .gnuInlineInconsistent .present =>
    compiling ["gnu_inline", ".gnu_inline. attribute present", "but not here"]
  | .gnuInlineInconsistent .redeclaredWith =>
    compiling ["gnu_inline", "redeclared inline with .gnu_inline. attribute"]
  | .gnuInlineInconsistent .redeclaredWithout =>
    compiling ["gnu_inline", "redeclared inline without .gnu_inline. attribute"]
  | .multipleDefinition => { check := .linkError "multiple definition" }
  | .undefinedReference => { check := .linkError "undefined reference" }

def ofVerdict : Verdict → Expectation
  | .success .useInlineDefinition => { check := .prints "1\n2\n" }
  | .success .linkOnceEither => { check := .prints "1\n1\n" }
  | .diagnostic d => ofDiagnostic d

/-- The pattern of a line of the linker. -/
def linkPattern (pattern : String) : String :=
  pattern ++ " .*" ++ symbol

end Expectation

namespace Warning

/-- The pattern of the text after the word that starts a warning. -/
def pattern : Warning → String
  | .gnuInlineIgnored => "gnu_inline.* attribute ignored"
  | .alwaysInlineIgnored => ".always_inline. function might not be inlinable"
  | .inlineNeverDefined => "inline function .* declared but never defined"

/-- The pattern of a whole line. -/
def linePattern (w : Warning) : String :=
  "warning: .*" ++ w.pattern

end Warning

end InlineLinkage
