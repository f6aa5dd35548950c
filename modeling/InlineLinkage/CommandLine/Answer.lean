import InlineLinkage.CommandLine.Request
import InlineLinkage.ConfigFile
import InlineLinkage.ErrorReport
import InlineLinkage.Outcome.Encoding
import InlineLinkage.Report
import InlineLinkage.Sandbox
import InlineLinkage.Toolchain

/-!
# Answers

What the program prints for a request, and the error with which it ends, if any. A request is answered
in a world: its files, its environment, and the commands that are found in it.
-/
namespace InlineLinkage.CommandLine

open Text

/-- Why a request fails. -/
inductive Failure where
  | config (e : ConfigError)
  | token (e : TokenError)
  | missing (e : MissingExecutable)
  | qualifiers (e : UnknownQualifier)
  | prediction (e : UnknownCase)
  | execution (e : CaseError SpawnError)
  | run (e : RunError SpawnError)
  | domain (index : Nat) (e : UnknownCase)
  /-- A single case whose prediction did not hold. -/
  | refuted (c : Case) (failures : Nat)
  /-- A case of a run whose prediction did not hold. -/
  | stopped (f : CaseFailure)
  | countDrift (count : Nat)
  | digestDrift (digest : String)
  | unexpectedDigest (expected digest : String)

namespace Failure

/-- The messages of the error, the outermost first. -/
def chain : Failure → List String
  | .config e => e.chain
  | .token e => e.chain
  | .missing e => [e.message]
  | .qualifiers e => ["parse qualifiers", e.message]
  | .prediction e => [e.message]
  | .execution e => e.chain SpawnError.chain
  | .run e => e.chain SpawnError.chain
  | .domain index e => ["classify case " ++ toString index, e.message]
  | .refuted c failures =>
    ["prediction did not hold for " ++ c.text ++ " (" ++ toString failures ++ " failures)"]
  | .stopped f => [f.report]
  | .countDrift count =>
    ["regression drift: " ++ toString count ++ " cases enumerated, recorded " ++
      toString Domain.exhaustiveCaseCount]
  | .digestDrift digest =>
    ["regression drift: outcome digest " ++ digest ++ " differs from recorded " ++
      OutcomeDigest.exhaustiveHex]
  | .unexpectedDigest expected digest =>
    ["regression drift: expected digest " ++ expected ++ ", got " ++ digest]

end Failure

structure Answer where
  output : String := ""
  failure : Option Failure := none

namespace Answer

/-- Goes on with the value of a step, or fails before anything is printed. -/
def after {α ε : Type} (wrap : ε → Failure) (step : Except ε α) (next : α → Answer) : Answer :=
  match step with
  | .ok a => next a
  | .error e => { failure := some (wrap e) }

def line (s : String) : Answer :=
  { output := s ++ "\n" }

end Answer

/-- The sandbox of a configuration. -/
def sandboxOf (c : Config) : Sandbox :=
  ⟨c.shell, c.timeout⟩

/-- The environment variable that can hold a resume token. -/
def skipVariable : String := "INLINE_ORACLE_SKIP"

/-- The two lines at the end of a run. -/
def reportText (r : RunReport) : String :=
  toString r.caseCount ++ " cases passed (" ++ toString r.skipped ++ " skipped, " ++
    toString r.executed ++ " executed)\ndigest: " ++ r.digest ++ "\n"

/-- What is wrong with a finished run. The exhaustive domain has a recorded size and digest. -/
def drift? (scope : Scope) (r : RunReport) : Option Failure :=
  match scope with
  | .minimal => none
  | .exhaustive =>
    if r.caseCount ≠ Domain.exhaustiveCaseCount then some (.countDrift r.caseCount)
    else if r.digest ≠ OutcomeDigest.exhaustiveHex then some (.digestDrift r.digest)
    else none

/-- The answer to a run: the lines that it printed and what came of it. -/
def ofTranscript {σ : Type} (scope : Scope) (t : Transcript σ SpawnError) : Answer :=
  let lines := String.join (t.lines.map fun l => l ++ "\n")
  match t.result with
  | .finished r => { output := lines ++ reportText r, failure := drift? scope r }
  | .failed f => { output := lines, failure := some (.stopped f) }
  | .stopped e => { output := lines, failure := some (.run e) }

def run (w : World) (scope : Scope) (skip config : Option String) : Answer :=
  .after .config (Config.resolve w config) fun c =>
  .after .token (ResumeToken.resolve skip (w.value? skipVariable)) fun token =>
  let domain := Domain.ofScope scope
  .after .missing (Toolchain.requireFor w.has c domain) fun _ =>
  ofTranscript scope (Runner.run ((sandboxOf c).executor w) c.drivers domain token ())

def check (w : World) (r : CaseRequest) (config : Option String) : Answer :=
  .after .config (Config.resolve w config) fun config =>
  .after .qualifiers r.toCase fun c =>
  .after .missing (Toolchain.requireAll w.has [config.shell, config.drivers.commandFor c]) fun _ =>
  .after .execution (((sandboxOf config).executor w).runCase config.drivers c ()).1 fun run =>
  { output := run.report c
    failure := if run.passed then none else some (.refuted c run.failures.length) }

def classify (r : CaseRequest) (asJson : Bool) : Answer :=
  .after .qualifiers r.toCase fun c =>
  .after .prediction c.predict fun o =>
  .line (if asJson then o.encoded else o.text)

def render (w : World) (r : CaseRequest) (config : Option String) : Answer :=
  .after .config (Config.resolve w config) fun config =>
  .after .qualifiers r.toCase fun c =>
  { output := (BuildScript.ofCase c config.drivers).text }

/-- An expected start of a digest as it is compared: without blanks around it and in lower case. -/
def expectation (s : String) : String :=
  String.ofList ((trimChars s.toList).map Char.toLower)

/-- What is wrong with a digest that should start with a text. An empty text is never right. -/
def unexpected? (expected : Option String) (hex : String) : Option Failure :=
  match expected.map expectation with
  | none => none
  | some e =>
    if e.isEmpty || !e.toList.isPrefixOf hex.toList then some (.unexpectedDigest e hex) else none

def digest (scope : Scope) (expected : Option String) : Answer :=
  .after (fun (index, e) => .domain index e) (OutcomeDigest.ofDomain (Domain.ofScope scope)) fun d =>
  { output := "cases: " ++ toString d.folded ++ "\ndigest: " ++ d.hex ++ "\n"
    failure := unexpected? expected d.hex }

namespace Request

/-- The answer to a request. -/
def answer (w : World) : Request → Answer
  | .run scope skip config => CommandLine.run w scope skip config
  | .check c config => CommandLine.check w c config
  | .classify c asJson => CommandLine.classify c asJson
  | .render c config => CommandLine.render w c config
  | .digest scope expected => CommandLine.digest scope expected

end Request

def programName : String := "inline-oracle"

def versionLine : String :=
  programName ++ " 0.1.0\n"

def usageText : String :=
  "Usage: " ++ programName ++ " [--verbose] <run|check|classify|render|digest> [options]\n"

/-- What the program leaves behind. -/
structure ProgramEnd where
  output : String := ""
  errors : String := ""
  exitCode : Nat := 0
  /-- The error that was reported. -/
  failure : Option Failure := none

/-- The end of the program after its arguments were refused or answered by themselves. -/
def Stop.programEnd : Stop → ProgramEnd
  | .usage e => { errors := "error: " ++ e.message ++ "\n\n" ++ usageText, exitCode := 2 }
  | .help => { output := usageText }
  | .version => { output := versionLine }

/-- Runs the program with its arguments. -/
def program (w : World) (arguments : List String) : ProgramEnd :=
  match Request.ofArguments arguments with
  | .error s => s.programEnd
  | .ok r =>
    let a := r.answer w
    match a.failure with
    | none => { output := a.output }
    | some f =>
      { output := a.output, errors := ErrorReport.text f.chain, exitCode := 1, failure := some f }

end InlineLinkage.CommandLine
