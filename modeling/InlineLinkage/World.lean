import InlineLinkage.Shell.FileTree

/-!
# The world of a run

The files, the environment and the directory that a program finds. A command without a slash is looked
for in the directories of the search path, and one with a slash from the current directory.
-/
namespace InlineLinkage

open Shell

structure World where
  files : FileTree
  environment : List (String × String) := []
  directory : Path := []

namespace World

def value? (w : World) (name : String) : Option String :=
  (w.environment.find? fun e => e.1 == name).map Prod.snd

/-- The directories in which commands are looked for. -/
def searchPath (w : World) : List Path :=
  match w.value? "PATH" with
  | none => []
  | some s => (Raw.split ':' (Raw.ofString s)).map (Path.resolve w.directory)

/-- The places where a command can be. -/
def candidates (w : World) (name : Raw) : List Path :=
  if name = [] then []
  else if name.contains '/' then [Path.resolve w.directory name]
  else w.searchPath.map fun d => d.step name

/-- The file of a command that can be run. -/
def program? (w : World) (name : Raw) : Option Path :=
  if name.getLast? = some '/' then none
  else (w.candidates name).find? w.files.isProgram

/-- Whether a command is found. -/
def has (w : World) (name : String) : Bool :=
  (w.program? (Raw.ofString name)).isSome

/-- The programs of a usual system. -/
def usualPrograms : List String :=
  ["sh", "dash", "bash", "ls", "cat", "sleep", "chmod", "mkdir", "rm", "true", "false", "echo", "printf",
    "test", "[", "pwd", "awk", "basename", "cc", "c++", "cp", "cut", "date", "dd", "dirname", "env",
    "expr", "find", "g++", "gcc", "grep", "head", "id", "kill", "ln", "mktemp", "mv", "od", "perl",
    "readlink", "rmdir", "sed", "seq", "sort", "stat", "tail", "tar", "tee", "touch", "tr", "uname",
    "uniq", "wc", "which", "whoami", "xargs", "yes"]

def programDirectories : List Path :=
  [["bin".toList], ["usr".toList, "bin".toList]]

/-- The files of a usual system. -/
def usualFiles : FileTree :=
  let directories : List Path :=
    [["tmp".toList], ["root".toList], ["dev".toList], ["etc".toList], ["usr".toList],
      ["usr".toList, "local".toList], ["usr".toList, "local".toList, "bin".toList]]
  let programs := programDirectories.flatMap fun d =>
    (d, Node.directory) :: usualPrograms.map fun name => (d ++ [name.toList], Node.program name.toList)
  let settings := ["passwd", "group", "hosts", "hostname"].map fun name =>
    (["etc".toList, name.toList], Node.file [] false)
  ⟨directories.map (fun d => (d, Node.directory)) ++ settings ++
    (["dev".toList, "null".toList], Node.null) :: programs⟩

/-- The directories in which a usual system looks for commands. -/
def usualPath : String :=
  "/usr/local/sbin:/usr/local/bin:/usr/sbin:/usr/bin:/sbin:/bin"

/-- A usual system without files of its own. -/
def usual : World :=
  { files := usualFiles
    environment := [("PATH", usualPath), ("HOME", "/root")] }

end World

end InlineLinkage
