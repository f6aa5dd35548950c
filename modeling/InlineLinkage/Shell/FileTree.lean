import InlineLinkage.Shell.Raw

/-!
# File trees

Directories with files, held by their absolute paths. A program that is no script is a node of its own
kind: only its name is known.
-/
namespace InlineLinkage.Shell

/-- The names on the way from the root. -/
abbrev Path := List Raw

namespace Path

/-- One step along a path. -/
def step (p : Path) (name : Raw) : Path :=
  if name = [] ∨ name = ['.'] then p
  else if name = ['.', '.'] then p.dropLast
  else p ++ [name]

/-- The path that a text names from a directory. -/
def resolve (directory : Path) (text : Raw) : Path :=
  let start := if text.head? = some '/' then [] else directory
  (Raw.split '/' text).foldl step start

def text (p : Path) : Raw :=
  if p = [] then ['/'] else p.flatMap fun name => '/' :: name

def parent (p : Path) : Path :=
  p.dropLast

end Path

inductive Node where
  | file (content : Raw) (executable : Bool)
  | directory
  | program (name : Raw)
  /-- It swallows what is written and holds nothing. -/
  | null
  deriving DecidableEq

namespace Node

def isDirectory : Node → Bool
  | .directory => true
  | _ => false

def isFile : Node → Bool
  | .file .. | .program _ => true
  | _ => false

def isExecutable : Node → Bool
  | .file _ executable => executable
  | .directory | .program _ => true
  | .null => false

def content : Node → Raw
  | .file content _ => content
  | _ => []

end Node

/-- Why a file cannot be read. -/
inductive FileFault where
  | missing
  | notDirectory
  | isDirectory
  deriving DecidableEq, Repr

def FileFault.message : FileFault → String
  | .missing => "No such file or directory (os error 2)"
  | .notDirectory => "Not a directory (os error 20)"
  | .isDirectory => "Is a directory (os error 21)"

structure FileTree where
  nodes : List (Path × Node)

namespace FileTree

def empty : FileTree := ⟨[]⟩

/-- The node at a path. The root is always there. -/
def node? (t : FileTree) (p : Path) : Option Node :=
  if p = [] then some .directory
  else (t.nodes.find? fun e => e.1 == p).map Prod.snd

def isDirectory (t : FileTree) (p : Path) : Bool :=
  (t.node? p).any Node.isDirectory

/-- A command that can be run. -/
def isProgram (t : FileTree) (p : Path) : Bool :=
  (t.node? p).any fun n => n.isFile && n.isExecutable

/-- Goes along names from a directory. Only a directory can be left, also toward its parent. -/
def walk (t : FileTree) : Path → List Raw → Except FileFault Path
  | p, [] => .ok p
  | p, name :: rest =>
    match t.node? p with
    | none => .error .missing
    | some n => if n.isDirectory then walk t (p.step name) rest else .error .notDirectory

/-- The content of the file that a text names from a directory. -/
def read (t : FileTree) (directory : Path) (text : Raw) : Except FileFault Raw := do
  let start := if text.head? = some '/' then [] else directory
  let p ← t.walk start (Raw.split '/' text)
  match t.node? p with
  | none => .error .missing
  | some .directory => .error .isDirectory
  | some n => .ok n.content

def putIn (p : Path) (n : Node) : List (Path × Node) → List (Path × Node)
  | [] => [(p, n)]
  | e :: rest => if e.1 = p then (p, n) :: rest else e :: putIn p n rest

/-- Sets the node at a path. -/
def put (t : FileTree) (p : Path) (n : Node) : FileTree :=
  ⟨putIn p n t.nodes⟩

/-- Takes away a node and all below it. -/
def remove (t : FileTree) (p : Path) : FileTree :=
  ⟨t.nodes.filter fun e => !p.isPrefixOf e.1⟩

/-- The directories above a path, the highest first. -/
def ancestors (p : Path) : List Path :=
  (List.range p.length).map fun n => p.take n

/-- Sets the node at a path and creates the directories above it. -/
def plant (t : FileTree) (p : Path) (n : Node) : FileTree :=
  let grown := (ancestors p).foldl (fun t d => if t.isDirectory d then t else t.put d .directory) t
  grown.put p n

/-- The names in a directory, in order. -/
def names (t : FileTree) (p : Path) : List Raw :=
  Raw.sort (t.nodes.filterMap fun e =>
    if e.1.dropLast = p then e.1.getLast? else none)

end FileTree

end InlineLinkage.Shell
