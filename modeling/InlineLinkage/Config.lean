import InlineLinkage.BuildScript
import InlineLinkage.Decimal.Duration
import InlineLinkage.Decimal.Shortest
import InlineLinkage.Json.Decode
import InlineLinkage.Json.Float
import InlineLinkage.Text.Blank
import InlineLinkage.Text.Utf8

/-!
# Configurations

The settings of runs: a time limit, commands that replace the usual compilers, and the shell. They are
read from a JSON record without unknown fields, and then checked.
-/
namespace InlineLinkage

open Text Decimal

structure Config where
  schemaVersion : Nat := 1
  /-- The limit for one case. Zero means none. -/
  timeoutSeconds : Reading := .finite ⟨false, 60, 0⟩
  cCompiler : Option String := none
  cxxCompiler : Option String := none
  shell : String := "bash"
  deriving DecidableEq, Repr

/-- The setting that replaces a compiler. -/
inductive CompilerSetting where
  | c
  | cxx
  deriving DecidableEq, Repr

def CompilerSetting.name : CompilerSetting → String
  | .c => "c_compiler"
  | .cxx => "cxx_compiler"

/-- What is wrong with a configuration. -/
inductive ConfigFault where
  | unsupportedVersion (version : Nat)
  | badTimeout (seconds : Reading)
  | blankShell
  | blankCompiler (setting : CompilerSetting)
  deriving DecidableEq, Repr

def ConfigFault.message : ConfigFault → String
  | .unsupportedVersion v => "unsupported config schema_version " ++ toString v
  | .badTimeout x =>
    "timeout_seconds must be a non-negative number (got " ++ String.ofList x.chars ++ ")"
  | .blankShell => "shell must be non-empty"
  | .blankCompiler s => s.name ++ " must be non-empty when set"

namespace Config

/-- The version that is understood. -/
def currentVersion : Nat := 1

/-- A finite number that is not below zero. -/
def isTimeout : Reading → Bool
  | .finite x => !x.negative || x.significand == 0
  | _ => false

/-- The first thing that is wrong, if any. -/
def fault? (c : Config) : Option ConfigFault :=
  if c.schemaVersion ≠ currentVersion then some (.unsupportedVersion c.schemaVersion)
  else if !isTimeout c.timeoutSeconds then some (.badTimeout c.timeoutSeconds)
  else if isAllBlank c.shell then some .blankShell
  else if c.cCompiler.any isAllBlank then some (.blankCompiler .c)
  else if c.cxxCompiler.any isAllBlank then some (.blankCompiler .cxx)
  else none

/-- The time limit, when there is one. -/
def timeout (c : Config) : Option Duration :=
  Duration.ofSeconds? c.timeoutSeconds

def drivers (c : Config) : Drivers :=
  ⟨c.cCompiler, c.cxxCompiler⟩

/-- The fields of a record, in order. -/
def fieldNames : List String :=
  ["schema_version", "timeout_seconds", "c_compiler", "cxx_compiler", "shell"]

def version? : Json.Value → Option Nat
  | .number n => n.natBelow? (Nat.pow 2 32)
  | _ => none

def seconds? : Json.Value → Option Reading
  | .number n => n.float?.map Binary64.ofFloat
  | _ => none

/-- A field that keeps its default when it is missing. -/
def orDefault {α : Type} (read : Json.Value → Option α) (default : α) :
    Option Json.Value → Option α
  | none => some default
  | some v => read v

def ofJson? (v : Json.Value) : Option Config :=
  match v.fields? fieldNames .refused with
  | some [some version, timeout, c, cxx, shell] => do
    let defaults : Config := {}
    let version ← version? version
    let timeout ← orDefault seconds? defaults.timeoutSeconds timeout
    let c ← Json.optional? Json.Value.text? c
    let cxx ← Json.optional? Json.Value.text? cxx
    let shell ← orDefault Json.Value.text? defaults.shell shell
    return ⟨version, timeout, c, cxx, shell⟩
  | _ => none

/-- The configuration that the bytes of a file hold, before it is checked. -/
def ofBytes? (bytes : List UInt8) : Option Config :=
  (decode? bytes).bind fun s => (Json.Value.ofChars? s).bind ofJson?

end Config

end InlineLinkage
