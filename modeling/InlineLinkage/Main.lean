import InlineLinkage.CommandLine.Answer

/-!
# The program

The outer layer: it finds the files that a request can need, has the request answered, and prints the
answer. Scripts are run on the files that were found; a program that is no script is known by its name
alone.
-/
open InlineLinkage Shell CommandLine

namespace InlineLinkage.Outer

/-- What is found at a place. -/
def node? (executable : Bool) (name path : String) : IO (Option Node) := do
  try
    let content := (← IO.FS.readBinFile path).toList.map Raw.ofByte
    if !executable then return some (.file content false)
    else if ['#', '!'].isPrefixOf content then return some (.file content true)
    else return some (.program (Raw.ofString name))
  catch
    | .inappropriateType .. => return some .directory
    | _ => return none

/-- Adds what is found at a place, if anything is. -/
def withFile (executable : Bool) (name : String) (w : World) (path : String) : IO World := do
  match ← node? executable name path with
  | some n => return { w with files := w.files.plant (Path.resolve w.directory (Raw.ofString path)) n }
  | none => return w

/-- The variables of the environment that are of interest. -/
def variableNames : List String :=
  ["PATH", "HOME", "XDG_CONFIG_HOME", skipVariable]

/-- The world with its environment and without files of its own. -/
def surroundings : IO World := do
  let environment ← variableNames.filterMapM fun name => do
    return (← IO.getEnv name).map fun value => (name, value)
  let directory := toString (← IO.currentDir)
  return { World.usual with
    environment := environment
    directory := Path.resolve [] (Raw.ofString directory) }

/-- The places where a command can be. -/
def places (w : World) (name : String) : List String :=
  (w.candidates (Raw.ofString name)).map fun p => Raw.toText p.text

/-- The world with the files that a request can need. -/
def worldFor (r : Request) : IO World := do
  let w ← surroundings
  let configs := r.config?.toList ++ (Config.usualPath? w).toList
  let w ← configs.foldlM (withFile false "") w
  match Config.resolve w r.config? with
  | .error _ => return w
  | .ok c =>
    c.commands.foldlM (fun w name => (places w name).foldlM (withFile true name) w) w

/-- The world for some arguments. Those that are refused need none. -/
def worldOf (arguments : List String) : IO World :=
  match Request.ofArguments arguments with
  | .ok r => worldFor r
  | .error _ => return World.usual

end InlineLinkage.Outer

def main (arguments : List String) : IO UInt32 := do
  let e := program (← Outer.worldOf arguments) arguments
  IO.print e.output
  IO.eprint e.errors
  return e.exitCode.toUInt32
