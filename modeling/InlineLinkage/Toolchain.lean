import InlineLinkage.Config
import InlineLinkage.Domain

/-!
# Toolchains

The commands that a run of a domain needs: the shell and then each compiler, once, in the order in
which the cases first use it. A run starts only when all of them are found.
-/
namespace InlineLinkage

open Text

/-- A command that is not found. -/
structure MissingExecutable where
  name : String
  deriving DecidableEq, Repr

def MissingExecutable.message (e : MissingExecutable) : String :=
  "required executable " ++ quote e.name ++ " not found on PATH: cannot find binary path"

namespace Toolchain

section Lookup

variable {m : Type → Type} [Monad m]

/-- Looks a command up and fails unless it is found. -/
def requireBy (lookUp : String → m Bool) (name : String) : m (Except MissingExecutable Unit) := do
  if ← lookUp name then return .ok () else return .error ⟨name⟩

/-- Looks commands up one after the other and fails at the first that is not found. -/
def requireAllBy (lookUp : String → m Bool) : List String → m (Except MissingExecutable Unit)
  | [] => return .ok ()
  | name :: rest => do
    match ← requireBy lookUp name with
    | .error e => return .error e
    | .ok () => requireAllBy lookUp rest

/-- Looks commands up in the same way, but passes over those that were checked before. -/
def requireNewBy (lookUp : String → m Bool) (checked : List String) :
    List String → m (Except MissingExecutable Unit)
  | [] => return .ok ()
  | name :: rest => do
    if checked.contains name then requireNewBy lookUp checked rest
    else
      match ← requireBy lookUp name with
      | .error e => return .error e
      | .ok () => requireNewBy lookUp (checked ++ [name]) rest

end Lookup

/-- The command for each pair of a compiler and a dialect. -/
def commands (drivers : Drivers) (d : Domain) : List String :=
  d.toolchains.map fun t => drivers.command t.1 t.2

/-- Looks up the shell and then what a domain compiles with. -/
def requireForBy {m : Type → Type} [Monad m] (lookUp : String → m Bool) (c : Config) (d : Domain) :
    m (Except MissingExecutable Unit) := do
  match ← requireBy lookUp c.shell with
  | .error e => return .error e
  | .ok () => requireNewBy lookUp [] (commands c.drivers d)

/-- A look-up that does nothing but answer. -/
def answering (found : String → Bool) (name : String) : Id Bool :=
  return found name

/-- Fails unless a command is found. -/
def require (found : String → Bool) (name : String) : Except MissingExecutable Unit :=
  (requireBy (answering found) name).run

/-- Fails at the first command that is not found. -/
def requireAll (found : String → Bool) (names : List String) : Except MissingExecutable Unit :=
  (requireAllBy (answering found) names).run

/-- Fails unless all commands for a domain are found. -/
def requireFor (found : String → Bool) (c : Config) (d : Domain) : Except MissingExecutable Unit :=
  (requireForBy (answering found) c d).run

end Toolchain

end InlineLinkage
