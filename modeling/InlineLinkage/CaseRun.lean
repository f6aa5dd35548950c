import InlineLinkage.BuildScript
import InlineLinkage.Prediction
import InlineLinkage.Verification

/-!
# Runs of single cases

A case is predicted, its script is given to an executor, and the output is verified. An executor may
remember what it was asked before.
-/
namespace InlineLinkage

/-- Runs scripts. Its answer may depend on a state that it changes. -/
structure Executor (σ ε : Type) where
  execute : σ → BuildScript → Except ε Captured × σ

/-- All that was seen of one executed case. -/
structure CaseRun where
  outcome : Outcome
  script : BuildScript
  captured : Captured
  failures : List Failure
  deriving DecidableEq, Repr

namespace CaseRun

def passed (r : CaseRun) : Bool :=
  r.failures.isEmpty

/-- The run of a case whose script gave some output. -/
def ofCaptured (o : Outcome) (script : BuildScript) (captured : Captured) : CaseRun :=
  ⟨o, script, captured, o.verify captured⟩

end CaseRun

/-- A case that could not be run. -/
inductive CaseError (ε : Type) where
  | unpredicted (e : UnknownCase)
  | execution (c : Case) (e : ε)
  deriving DecidableEq, Repr

namespace CaseError

/-- The messages of the error, the outermost first. -/
def chain {ε : Type} (inner : ε → List String) : CaseError ε → List String
  | .unpredicted e => [e.message]
  | .execution c e => ("execute case " ++ c.text) :: inner e

end CaseError

namespace Executor

variable {σ ε : Type}

/-- Runs one case. -/
def runCase (x : Executor σ ε) (drivers : Drivers) (c : Case) (s : σ) :
    Except (CaseError ε) CaseRun × σ :=
  match c.predict with
  | .error e => (.error (.unpredicted e), s)
  | .ok o =>
    let script := BuildScript.ofCase c drivers
    match x.execute s script with
    | (.error e, s) => (.error (.execution c e), s)
    | (.ok captured, s) => (.ok (.ofCaptured o script captured), s)

end Executor

end InlineLinkage
