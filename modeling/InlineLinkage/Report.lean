import InlineLinkage.Runner
import InlineLinkage.Text.Lines

/-!
# Reports

The texts that a run prints: a line for each case that is executed, a report of one case with all that
was seen of it, and the report of a failure with the tokens that resume the run. Whatever a report
quotes is indented, so that no quoted line looks like one of its own.
-/
namespace InlineLinkage

open Text

/-- The line that announces a case. -/
def progressChars (index : Nat) (c : Case) (o : Outcome) : List Char :=
  padLeft 6 (natChars index) ++ ' ' :: c.chars ++ ' ' :: o.chars

/-- What an event prints. Calls of the executor print nothing. -/
def Event.line? : Event → Option String
  | .progress index c o => some (String.ofList (progressChars index c o))
  | .execute _ => none

/-- The script of an event that calls the executor. -/
def Event.script? : Event → Option BuildScript
  | .progress .. => none
  | .execute script => some script

namespace CaseRun

/-- How the script ended. -/
def exitChars (captured : Captured) : List Char :=
  (match captured.exitCode with
    | some code => intChars code
    | none => "signal".toList) ++
    if captured.timedOut then " (timed out)".toList else []

/-- The end of a report: a verdict, or the failures one by one. -/
def resultChars (failures : List Failure) : List Char :=
  if failures.isEmpty then "result:    pass\n".toList
  else
    "failures:\n".toList ++
      failures.flatMap fun f => indentation ++ ['-', ' '] ++ f.chars ++ ['\n']

/-- The report of an executed case. -/
def reportChars (c : Case) (r : CaseRun) : List Char :=
  "case:      ".toList ++ c.chars ++ "\npredicted: ".toList ++ r.outcome.chars ++
    "\nscript:\n".toList ++ indentChars r.script.chars ++
    "stdout:\n".toList ++ indentChars r.captured.stdout.toList ++
    "stderr:\n".toList ++ indentChars r.captured.stderr.toList ++
    "exit code: ".toList ++ exitChars r.captured ++ ['\n'] ++ resultChars r.failures

def report (c : Case) (r : CaseRun) : String :=
  String.ofList (r.reportChars c)

end CaseRun

namespace CaseFailure

/-- The report of a failure. Its last two lines are the options that resume the run. -/
def reportChars (f : CaseFailure) : List Char :=
  "prediction failed at case ".toList ++ natChars f.index ++ ['\n'] ++ f.run.reportChars f.spec ++
    "resume at:  --skip ".toList ++ f.resumeAt.chars ++ "\nskip past:  --skip ".toList ++
    f.skipPast.chars

def report (f : CaseFailure) : String :=
  String.ofList f.reportChars

end CaseFailure

namespace Transcript

variable {σ ε : Type}

/-- The lines that a run printed. -/
def lines (t : Transcript σ ε) : List String :=
  t.events.filterMap Event.line?

/-- The scripts that a run gave to its executor. -/
def scripts (t : Transcript σ ε) : List BuildScript :=
  t.events.filterMap Event.script?

end Transcript

end InlineLinkage
