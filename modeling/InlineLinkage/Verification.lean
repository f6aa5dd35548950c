import InlineLinkage.Captured
import InlineLinkage.Expectation
import InlineLinkage.Text.DecimalDigit
import InlineLinkage.Text.Lines
import InlineLinkage.Text.Number
import InlineLinkage.Text.Part
import InlineLinkage.Text.Quoted

/-!
# Verification

Compares an outcome with the output of the toolchain. The answer is a list of failures, in a fixed
order, and it is empty when the prediction holds. The error stream counts only by the lines it has.
-/
namespace InlineLinkage

open Text

/-- One way in which a prediction did not hold. -/
inductive Failure where
  | timedOut
  | buildSucceeded (file : String)
  /-- No error line of a file has a message that fits. Without a pattern any message does. -/
  | noCompileError (file : String) (pattern : Option String)
  | noLinkError (pattern : String)
  | wrongExit (code : Option Int)
  | wrongOutput (expected got : String)
  | missingWarning (w : Warning)
  | unexpectedWarning
  deriving DecidableEq, Repr

namespace Failure

/-- How a script ended, in words. -/
def exitChars : Option Int → List Char
  | some code => intChars code
  | none => "none (terminated by signal)".toList

/-- The failure in one line. -/
def chars : Failure → List Char
  | .timedOut => "script timed out".toList
  | .buildSucceeded file =>
    "expected a compiler error in ".toList ++ file.toList ++ ", but the build succeeded".toList
  | .noCompileError file none =>
    "expected a compiler error in ".toList ++ file.toList ++ ", but did not find one".toList
  | .noCompileError file (some pattern) =>
    "expected a compiler error in ".toList ++ file.toList ++ " matching ".toList ++
      quoteChars pattern.toList ++ ", but did not find one".toList
  | .noLinkError pattern =>
    "expected a linker error matching ".toList ++ quoteChars pattern.toList
  | .wrongExit code => "expected exit code 0, got ".toList ++ exitChars code
  | .wrongOutput expected got =>
    "stdout differs from expected: expected ".toList ++ quoteChars expected.toList ++
      ", got ".toList ++ quoteChars got.toList
  | .missingWarning w =>
    "expected a ".toList ++ w.name.toList ++ " warning matching ".toList ++
      quoteChars w.pattern.toList ++ ", none found".toList
  | .unexpectedWarning => "expected no warnings, but stderr had a warning".toList

def text (f : Failure) : String :=
  String.ofList f.chars

end Failure

namespace ErrorLine

/-- The text after one or more digits. -/
def dropDigits? (s : List Char) : Option (List Char) :=
  match s with
  | [] => none
  | c :: rest => if isDecimalDigit c then some (rest.dropWhile isDecimalDigit) else none

/-- The text after an optional ending of a file name. -/
def dropExtension (s : List Char) : List Char :=
  ((dropStart? ".cpp:".toList s).orElse fun _ => dropStart? ".c:".toList s).elim s (':' :: ·)

/-- The message of a line that reports an error in a file: the name of the file, line, column and the
word for an error come before it. -/
def message? (file : String) (line : List Char) : Option (List Char) := do
  let s ← dropStart? file.toList line
  let s ← dropStart? [':'] (dropExtension s)
  let s ← dropDigits? s
  let s ← dropStart? [':'] s
  let s ← dropDigits? s
  dropStart? ": error: ".toList s

end ErrorLine

namespace Captured

/-- The lines of the error stream. -/
def errorLines (c : Captured) : List (List Char) :=
  lines c.stderr.toList

/-- Some line of the error stream fits a pattern. -/
def hasLine (c : Captured) (pattern : String) : Bool :=
  c.errorLines.any (Pattern.ofString pattern).occurs

/-- Some error line of a file has a message that fits. -/
def hasError (c : Captured) (file : String) (pattern : Option String) : Bool :=
  c.errorLines.any fun line =>
    match ErrorLine.message? file line with
    | none => false
    | some message => pattern.all fun p => (Pattern.ofString p).occurs message

/-- Whether a warning is given. -/
def warns (c : Captured) (w : Warning) : Bool :=
  c.hasLine w.linePattern

/-- Whether the error stream speaks of warnings at all. -/
def mentionsWarning (c : Captured) : Bool :=
  occursIn "warning".toList c.stderr.toList

def succeeded (c : Captured) : Bool :=
  c.exitCode == some 0

/-- What is missing of the errors of one file. -/
def compileFailures (c : Captured) (patterns : List String) (file : String) : List Failure :=
  if c.succeeded then [.buildSucceeded file]
  else
    (none :: patterns.map some).filterMap fun pattern =>
      if c.hasError file pattern then none else some (.noCompileError file pattern)

/-- What is missing of a check. -/
def checkFailures (c : Captured) : Check → List Failure
  | .compileErrors patterns => Expectation.sourceFiles.flatMap (c.compileFailures patterns)
  | .linkError pattern =>
    if c.hasLine (Expectation.linkPattern pattern) then []
    else [.noLinkError (Expectation.linkPattern pattern)]
  | .prints stdout =>
    (if c.succeeded then [] else [.wrongExit c.exitCode]) ++
      if c.stdout = stdout then [] else [.wrongOutput stdout c.stdout]

end Captured

namespace Outcome

/-- The warnings that the output must show. -/
def requiredWarnings (o : Outcome) : List Warning :=
  let e := Expectation.ofVerdict o.verdict
  (o.warnings.toList.filter fun w => !e.unreachable.contains w) ++ e.implied

/-- No warning may be shown at all. -/
def forbidsWarnings (o : Outcome) : Bool :=
  let e := Expectation.ofVerdict o.verdict
  o.warnings.isEmpty && e.implied.isEmpty && !e.toleratesOthers

/-- What does not hold of an outcome. -/
def verify (o : Outcome) (c : Captured) : List Failure :=
  (if c.timedOut then [.timedOut] else []) ++
    c.checkFailures (Expectation.ofVerdict o.verdict).check ++
    (o.requiredWarnings.filter fun w => !c.warns w).map .missingWarning ++
    if o.forbidsWarnings && c.mentionsWarning then [.unexpectedWarning] else []

end Outcome

end InlineLinkage
