import InlineLinkage.Text.Blank
import InlineLinkage.Text.Part
import InlineLinkage.Text.Quoted

/-!
# Dialects, optimization levels and compilers

The settings under which a case is compiled, with the texts by which they are chosen.
-/
namespace InlineLinkage

open Text

/-- A kind of setting. -/
inductive SettingKind where
  | dialect
  | level
  | compiler
  deriving DecidableEq, Repr

def SettingKind.label : SettingKind → String
  | .dialect => "language standard"
  | .level => "optimization level"
  | .compiler => "compiler"

/-- A text that names no setting of its kind. -/
structure UnknownSetting where
  kind : SettingKind
  value : String
  deriving DecidableEq, Repr

def UnknownSetting.message (e : UnknownSetting) : String :=
  "unknown " ++ e.kind.label ++ " " ++ quote e.value

/-- The dialects that treat `inline` alike. -/
inductive Family where
  | gnu89
  | c99
  | cxx
  deriving DecidableEq, Repr

/-- A language standard, strict or with the extensions of the compiler. -/
inductive Dialect where
  | c89
  | gnu89
  | c99
  | gnu99
  | c11
  | gnu11
  | cxx98
  | gnuCxx98
  | cxx11
  | gnuCxx11
  | cxx14
  | gnuCxx14
  | cxx1z
  | gnuCxx1z
  deriving DecidableEq, Repr

namespace Dialect

def all : List Dialect :=
  [.c89, .gnu89, .c99, .gnu99, .c11, .gnu11, .cxx98, .gnuCxx98, .cxx11, .gnuCxx11, .cxx14, .gnuCxx14,
    .cxx1z, .gnuCxx1z]

theorem mem_all (d : Dialect) : d ∈ all := by
  cases d <;> simp [all]

theorem nodup_all : all.Nodup := by
  simp [all]

/-- The spelling after `-std=`. -/
def spelling : Dialect → String
  | .c89 => "c89"
  | .gnu89 => "gnu89"
  | .c99 => "c99"
  | .gnu99 => "gnu99"
  | .c11 => "c11"
  | .gnu11 => "gnu11"
  | .cxx98 => "c++98"
  | .gnuCxx98 => "gnu++98"
  | .cxx11 => "c++11"
  | .gnuCxx11 => "gnu++11"
  | .cxx14 => "c++14"
  | .gnuCxx14 => "gnu++14"
  | .cxx1z => "c++1z"
  | .gnuCxx1z => "gnu++1z"

/-- The name in encoded data. -/
def name : Dialect → String
  | .c89 => "C89"
  | .gnu89 => "Gnu89"
  | .c99 => "C99"
  | .gnu99 => "Gnu99"
  | .c11 => "C11"
  | .gnu11 => "Gnu11"
  | .cxx98 => "Cxx98"
  | .gnuCxx98 => "GnuCxx98"
  | .cxx11 => "Cxx11"
  | .gnuCxx11 => "GnuCxx11"
  | .cxx14 => "Cxx14"
  | .gnuCxx14 => "GnuCxx14"
  | .cxx1z => "Cxx1z"
  | .gnuCxx1z => "GnuCxx1z"

def family : Dialect → Family
  | .c89 | .gnu89 => .gnu89
  | .c99 | .gnu99 | .c11 | .gnu11 => .c99
  | _ => .cxx

def isCxx (d : Dialect) : Bool :=
  d.family == .cxx

/-- The extensions of the compiler are on. -/
def isGnu : Dialect → Bool
  | .gnu89 | .gnu99 | .gnu11 | .gnuCxx98 | .gnuCxx11 | .gnuCxx14 | .gnuCxx1z => true
  | _ => false

/-- `inline` is a keyword everywhere but in the oldest strict dialect. -/
def supportsInline (d : Dialect) : Bool :=
  d.isCxx || d.isGnu || d.family == .c99

theorem supportsInline_iff (d : Dialect) : d.supportsInline = true ↔ d ≠ .c89 := by
  cases d <;> decide

/-- The ending of the names of source files. -/
def fileExtension (d : Dialect) : String :=
  if d.isCxx then ".cpp" else ".c"

def ofName? (name : String) : Option Dialect :=
  all.find? fun d => d.name == name

theorem ofName?_name (d : Dialect) : ofName? d.name = some d := by
  cases d <;> decide

/-- The option that sets the dialect, up to its value. -/
def optionStart : List Char := "-std=".toList

/-- The dialect that a text names, with or without the option before it. Blanks around the text do not
count. -/
def ofText (s : String) : Except UnknownSetting Dialect :=
  let trimmed := trimChars s.toList
  let word := (dropStart? optionStart trimmed).getD trimmed
  match all.find? fun d => d.spelling.toList == word with
  | some d => .ok d
  | none => .error ⟨.dialect, String.ofList word⟩

end Dialect

inductive Level where
  | o0
  | o1
  | o2
  | o3
  | os
  deriving DecidableEq, Repr

namespace Level

def all : List Level :=
  [.o0, .o1, .o2, .o3, .os]

theorem mem_all (l : Level) : l ∈ all := by
  cases l <;> simp [all]

theorem nodup_all : all.Nodup := by
  simp [all]

/-- The name in encoded data. It follows the dash of the flag. -/
def name : Level → String
  | .o0 => "O0"
  | .o1 => "O1"
  | .o2 => "O2"
  | .o3 => "O3"
  | .os => "Os"

/-- The flag of the compiler. -/
def flag (l : Level) : String :=
  "-" ++ l.name

def isUnoptimized (l : Level) : Bool :=
  l == .o0

def ofName? (name : String) : Option Level :=
  all.find? fun l => l.name == name

theorem ofName?_name (l : Level) : ofName? l.name = some l := by
  cases l <;> decide

/-- A text without one dash at its start. -/
def dropDash : List Char → List Char
  | '-' :: rest => rest
  | s => s

/-- The level that a text names, with or without the dash. Blanks around the text do not count, but an
error repeats the text as it is. -/
def ofText (s : String) : Except UnknownSetting Level :=
  let word := dropDash (trimChars s.toList)
  match all.find? fun l => l.name.toList == word with
  | some l => .ok l
  | none => .error ⟨.level, s⟩

end Level

/-- A family of compilers. Predictions are made for the first only. -/
inductive Compiler where
  | gcc
  | clang
  deriving DecidableEq, Repr

namespace Compiler

def all : List Compiler :=
  [.gcc, .clang]

theorem mem_all (c : Compiler) : c ∈ all := by
  cases c <;> simp [all]

def name : Compiler → String
  | .gcc => "gcc"
  | .clang => "clang"

/-- The command that compiles a dialect. -/
def driver (c : Compiler) (d : Dialect) : String :=
  match c, d.isCxx with
  | .gcc, false => "gcc"
  | .gcc, true => "g++"
  | .clang, false => "clang"
  | .clang, true => "clang++"

def ofName? (name : String) : Option Compiler :=
  all.find? fun c => c.name == name

theorem ofName?_name (c : Compiler) : ofName? c.name = some c := by
  cases c <;> decide

/-- The compiler that a text names. Blanks around the text do not count. -/
def ofText (s : String) : Except UnknownSetting Compiler :=
  let word := trimChars s.toList
  match all.find? fun c => c.name.toList == word with
  | some c => .ok c
  | none => .error ⟨.compiler, String.ofList word⟩

end Compiler

end InlineLinkage
