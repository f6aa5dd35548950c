import InlineLinkage.Config
import InlineLinkage.World

/-!
# Configuration files

A configuration is read from the file that is named, or from a usual place when there is a file at that
place. Without both the defaults hold.
-/
namespace InlineLinkage

open Shell

/-- Why the configuration of a file cannot be used. -/
inductive ConfigError where
  | unreadable (path : String) (fault : FileFault)
  | malformed (path : String)
  | invalid (path : String) (fault : ConfigFault)
  deriving DecidableEq, Repr

/-- The messages of the error, the outermost first. -/
def ConfigError.chain : ConfigError → List String
  | .unreadable path f => ["read config " ++ path, f.message]
  | .malformed path => ["parse config JSON " ++ path]
  | .invalid path f => ["validate config " ++ path, f.message]

namespace Config

/-- The configuration of a file. -/
def ofFile (w : World) (path : String) : Except ConfigError Config :=
  match w.files.read w.directory (Raw.ofString path) with
  | .error f => .error (.unreadable path f)
  | .ok content =>
    match ofBytes? (Raw.toBytes content) with
    | none => .error (.malformed path)
    | some c =>
      match c.fault? with
      | some f => .error (.invalid path f)
      | none => .ok c

/-- The directory for configurations. One that is not absolute does not count. -/
def directory? (w : World) : Option String :=
  match (w.value? "XDG_CONFIG_HOME").filter fun d => d.toList.head? == some '/' with
  | some d => some d
  | none => (w.value? "HOME").map fun home => home ++ "/.config"

/-- The usual place of the file. -/
def usualPath? (w : World) : Option String :=
  (directory? w).map fun d => d ++ "/inline-oracle/config.json"

/-- The configuration of the file that is named, else that of the usual place. -/
def resolve (w : World) : Option String → Except ConfigError Config
  | some path => ofFile w path
  | none =>
    match usualPath? w with
    | none => .ok {}
    | some path =>
      match w.files.read w.directory (Raw.ofString path) with
      | .ok _ => ofFile w path
      | .error _ => .ok {}

/-- All commands that a configuration can need. -/
def commands (c : Config) : List String :=
  let compilers := Compiler.all.flatMap fun k => Dialect.all.map (c.drivers.command k)
  (c.shell :: compilers).eraseDups

end Config

end InlineLinkage
