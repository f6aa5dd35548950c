import InlineLinkage.Captured
import InlineLinkage.CaseRun
import InlineLinkage.Decimal.Duration
import InlineLinkage.Shell.Evaluation
import InlineLinkage.World

/-!
# Sandboxes

A script runs in a fresh directory that holds nothing but the script, with no input. It is looked at
again and again after a fixed time; once it has run for longer than it may, it and all that it started
are killed. Output counts until nobody can write any more.
-/
namespace InlineLinkage

open Shell

structure Sandbox where
  /-- The command that gets the script. -/
  shell : String
  timeout : Option Decimal.Duration := none
  deriving DecidableEq, Repr

/-- Why a program cannot be started. -/
inductive SpawnFault where
  | notFound
  | notPermitted
  | unknownFormat
  | zeroByte
  deriving DecidableEq, Repr

def SpawnFault.message : SpawnFault → String
  | .notFound => "No such file or directory (os error 2)"
  | .notPermitted => "Permission denied (os error 13)"
  | .unknownFormat => "Exec format error (os error 8)"
  | .zeroByte => "nul byte found in provided data"

structure SpawnError where
  shell : String
  fault : SpawnFault
  deriving DecidableEq, Repr

/-- The name of the script in its directory. -/
def Sandbox.scriptName : String := "test.sh"

/-- The messages of the error, the outermost first. -/
def SpawnError.chain (e : SpawnError) : List String :=
  ["spawn " ++ e.shell ++ " -e " ++ Sandbox.scriptName, e.fault.message]

namespace Sandbox

/-- The fresh directory. -/
def directory : Path :=
  ["tmp".toList, "inline_test".toList]

/-- A world as a script finds it. -/
def around (w : World) (script : String) : World :=
  let script := Node.file (Raw.ofString script) false
  { w with
    files := (w.files.plant directory .directory).put (directory.step scriptName.toList) script
    directory := directory }

/-- Whether a file can be started by itself. -/
def startFault? (files : FileTree) (p : Path) : Option SpawnFault :=
  match files.node? p with
  | some (.program _) => none
  | some (.file content true) =>
    match Run.interpreter? content with
    | none => some .unknownFormat
    | some (name, _) =>
      match files.node? (Path.resolve directory name) with
      | none => some .notFound
      | some n => if n.isFile && n.isExecutable then none else some .notPermitted
  | some _ => some .notPermitted
  | none => some .notFound

/-- The file of a command, or why there is none that can be started. -/
def start? (w : World) (name : Raw) : Except SpawnFault Path :=
  if name.contains '\x00' then .error .zeroByte
  else
    let present := (w.candidates name).filter fun p => (w.files.node? p).isSome
    match present.find? w.files.isProgram, present with
    | some p, _ =>
      match startFault? w.files p with
      | none => .ok p
      | some f => .error f
    | none, [] => .error .notFound
    | none, _ => .error .notPermitted

/-- The time between two looks at a script, in nanoseconds. -/
def pollInterval : Nat := 25000000

/-- When a script is killed: at the first look after its time. -/
def killTime (d : Decimal.Duration) : Nat :=
  (d.nanoseconds + pollInterval - 1) / pollInterval * pollInterval

/-- A time after which nothing is followed. -/
def endOfTime : Nat := Nat.pow 10 18

/-- How many steps of a script are followed. -/
def budget : Nat := 4000000

/-- How deeply the calls of a script can be nested. -/
def nesting : Nat := 20000

/-- A machine in which a command is about to start. Its output goes to the first two pipes. -/
def machine (w : World) (horizon : Nat) : Machine :=
  { files := w.files
    opened := #[.null, .sink 0, .sink 1]
    pipes := #[{}, {}]
    nextProcess := 1001
    budget := budget
    process :=
      { id := 1000
        lineage := [1000]
        horizon := horizon
        shell := 1000
        name := []
        directory := w.directory
        vars := w.environment.map fun (name, value) =>
          ⟨Raw.ofString name, some (Raw.ofString value), true, false⟩
        descriptors := [(0, 0), (1, 1), (2, 2)] } }

/-- What a pipe gave until a time, or at all. -/
def output (m : Machine) (pipe : Nat) (until? : Option Nat) : String :=
  let p := (m.pipes[pipe]?).getD {}
  Raw.toText (until?.elim p.text p.textUntil)

/-- What is seen of a process that ran until it ended or was killed. -/
def captured (m : Machine) (e : Ending) (horizon : Nat) : Captured :=
  if e.expired || horizon < e.time then
    { stdout := output m 0 (some horizon), stderr := output m 1 (some horizon), timedOut := true }
  else
    { stdout := output m 0 none
      stderr := output m 1 none
      exitCode := if e.signal.isSome then none else some e.status }

/-- Runs a script. -/
def run (s : Sandbox) (w : World) (script : String) : Except SpawnError Captured :=
  let w := around w script
  let name := Raw.ofString s.shell
  match start? w name with
  | .error f => .error ⟨s.shell, f⟩
  | .ok path =>
    let horizon := s.timeout.elim endOfTime killTime
    let m := machine w horizon
    let body := Run.runProgram nesting path (Run.fileText name path) name
      ["-e".toList, scriptName.toList]
    match (Run.runToEnd nesting body).run m with
    | .ok e m => .ok (captured m e horizon)
    | .error _ m => .ok (captured m { id := 0, status := 0, time := 0, expired := true } horizon)

/-- Sandboxes as executors of cases. They remember nothing. -/
def executor (s : Sandbox) (w : World) : Executor Unit SpawnError where
  execute _ script := (s.run w script.text, ())

end Sandbox

end InlineLinkage
