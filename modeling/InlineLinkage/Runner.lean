import InlineLinkage.CaseRun
import InlineLinkage.Domain
import InlineLinkage.OutcomeDigest
import InlineLinkage.ResumeToken

/-!
# Runs of domains

The cases of a domain are run in order up to the first that fails. A resume token skips the cases at the
start: their outcomes still go into the digest, which is compared with the token before the first case
is executed. What a run shows and asks of its executor is recorded as a row of events.
-/
namespace InlineLinkage

/-- Something that a run does. -/
inductive Event where
  /-- It announces a case. -/
  | progress (index : Nat) (c : Case) (o : Outcome)
  /-- It gives a script to the executor. -/
  | execute (script : BuildScript)
  deriving DecidableEq, Repr

/-- A case whose prediction did not hold, with the token that runs it again and the token that goes on
with the next. -/
structure CaseFailure where
  index : Nat
  spec : Case
  run : CaseRun
  resumeAt : ResumeToken
  skipPast : ResumeToken
  deriving DecidableEq, Repr

/-- A run in which nothing failed. -/
structure RunReport where
  caseCount : Nat
  skipped : Nat
  executed : Nat
  digest : String
  deriving DecidableEq, Repr

/-- Why a run could not go on. -/
inductive RunError (ε : Type) where
  | pastEnd (index caseCount : Nat)
  | digestMismatch (folded : Nat) (expected actual : String)
  | unpredicted (index : Nat) (e : UnknownCase)
  | execution (c : Case) (e : ε)
  deriving DecidableEq, Repr

namespace RunError

/-- The messages of the error, the outermost first. -/
def chain {ε : Type} (inner : ε → List String) : RunError ε → List String
  | .pastEnd index caseCount =>
    ["resume index " ++ toString index ++ " is past the end of the domain (" ++ toString caseCount ++
      " cases)"]
  | .digestMismatch folded expected actual =>
    ["resume token " ++ toString folded ++ ":" ++ expected ++
      " does not match this oracle: digest after " ++ toString folded ++ " cases is " ++ actual]
  | .unpredicted index e => ["classify case " ++ toString index, e.message]
  | .execution c e => (CaseError.execution c e).chain inner

end RunError

inductive RunResult (ε : Type) where
  | finished (report : RunReport)
  | failed (failure : CaseFailure)
  | stopped (e : RunError ε)
  deriving DecidableEq, Repr

/-- What a run did, how it ended, and the state in which it left the executor. -/
structure Transcript (σ ε : Type) where
  events : List Event
  result : RunResult ε
  state : σ

namespace Runner

/-- Whether cases are skipped, and how many more. -/
inductive Phase where
  | skipping (remaining : Nat)
  | running
  deriving DecidableEq, Repr

/-- A run before its next case. The events are those so far, the last first. -/
structure Walk (σ : Type) where
  phase : Phase
  index : Nat
  digest : OutcomeDigest
  executed : Nat
  events : List Event
  state : σ

/-- Compares the digest with the start that a token holds. -/
def checkDigest {ε : Type} (expected : Option String) (d : OutcomeDigest) :
    Except (RunError ε) Unit :=
  match expected with
  | none => .ok ()
  | some e =>
    if e.toList.isPrefixOf d.chars then .ok ()
    else .error (.digestMismatch d.folded e (d.start e.utf8ByteSize))

/-- The phase in which the next case, if there is one, is met. Skipping ends with the comparison. -/
def Phase.next {ε : Type} (p : Phase) (expected : Option String) (d : OutcomeDigest) :
    Except (RunError ε) Phase :=
  match p with
  | .skipping 0 => (checkDigest expected d).map fun _ => .running
  | p => .ok p

namespace Walk

variable {σ ε : Type}

/-- The end of a run. -/
def stop (w : Walk σ) (r : RunResult ε) : Transcript σ ε :=
  ⟨w.events.reverse, r, w.state⟩

/-- The run after a skipped case. -/
def skip (w : Walk σ) (remaining : Nat) (o : Outcome) : Walk σ :=
  { w with
    phase := .skipping (remaining - 1)
    index := w.index + 1
    digest := w.digest.fold o }

/-- The run after a case was announced and executed. -/
def execute (w : Walk σ) (c : Case) (o : Outcome) (script : BuildScript) (s : σ) : Walk σ :=
  { phase := .running
    index := w.index + 1
    digest := w.digest.fold o
    executed := w.executed + 1
    events := .execute script :: .progress w.index c o :: w.events
    state := s }

/-- The token that stands before the next case. -/
def token (w : Walk σ) : ResumeToken :=
  ⟨w.index, some w.digest.tokenStart⟩

/-- What is fixed during a run. -/
structure Setup (σ ε : Type) where
  executor : Executor σ ε
  drivers : Drivers
  expected : Option String
  caseCount : Nat
  skipped : Nat

/-- Announces a case, executes it and verifies what came out. A run that ends there is the error. -/
def attempt (u : Setup σ ε) (w : Walk σ) (c : Case) (o : Outcome) :
    Except (Transcript σ ε) (Walk σ) :=
  let script := BuildScript.ofCase c u.drivers
  match u.executor.execute w.state script with
  | (.error e, s) => .error ((w.execute c o script s).stop (.stopped (.execution c e)))
  | (.ok captured, s) =>
    let r := CaseRun.ofCaptured o script captured
    let after := w.execute c o script s
    if r.passed then .ok after
    else .error (after.stop (.failed ⟨w.index, c, r, w.token, after.token⟩))

/-- Takes the next case. A run that ends there is the error. -/
def step (u : Setup σ ε) (w : Walk σ) (c : Case) : Except (Transcript σ ε) (Walk σ) :=
  match w.phase.next u.expected w.digest with
  | .error e => .error (w.stop (.stopped e))
  | .ok phase =>
    match c.predict with
    | .error e => .error (w.stop (.stopped (.unpredicted w.index e)))
    | .ok o =>
      match phase with
      | .skipping remaining => .ok (w.skip remaining o)
      | .running => w.attempt u c o

/-- Ends the run after the last case. A token that skips all cases is still compared. -/
def finish (u : Setup σ ε) (w : Walk σ) : Transcript σ ε :=
  match w.phase.next u.expected w.digest with
  | .error e => w.stop (.stopped e)
  | .ok _ => w.stop (.finished ⟨u.caseCount, u.skipped, w.executed, w.digest.hex⟩)

/-- Takes the cases that are left. -/
def run (u : Setup σ ε) (w : Walk σ) : List Case → Transcript σ ε
  | [] => w.finish u
  | c :: rest =>
    match w.step u c with
    | .error t => t
    | .ok next => next.run u rest

end Walk

/-- The phase in which a run starts. -/
def firstPhase : Option ResumeToken → Phase
  | none => .running
  | some t => .skipping t.index

/-- The run of a domain before its first case. -/
def firstWalk {σ : Type} (resume : Option ResumeToken) (s : σ) : Walk σ :=
  ⟨firstPhase resume, 0, .empty, 0, [], s⟩

/-- What is fixed during the run of a domain. -/
def setup {σ ε : Type} (x : Executor σ ε) (drivers : Drivers) (d : Domain)
    (resume : Option ResumeToken) : Walk.Setup σ ε :=
  ⟨x, drivers, resume.bind ResumeToken.digestStart, d.caseCount, resume.elim 0 ResumeToken.index⟩

/-- Runs a domain from a token on, or from its start. -/
def run {σ ε : Type} (x : Executor σ ε) (drivers : Drivers) (d : Domain)
    (resume : Option ResumeToken) (s : σ) : Transcript σ ε :=
  let u := setup x drivers d resume
  if d.caseCount < u.skipped then ⟨[], .stopped (.pastEnd u.skipped d.caseCount), s⟩
  else (firstWalk resume s).run u d.cases

end Runner

end InlineLinkage
