import InlineLinkage.Declarations
import InlineLinkage.Dialect
import InlineLinkage.Text.Column

/-!
# Cases

A case is one program to be compiled: the declarations of its function and the settings of the
compiler. Its text is one row of columns.
-/
namespace InlineLinkage

open Text

structure Case where
  declarations : Declarations
  compiler : Compiler
  dialect : Dialect
  level : Level
  deriving DecidableEq, Repr

namespace Case

/-- The flags after the command of the compiler. -/
def flags (c : Case) : String :=
  "-std=" ++ c.dialect.spelling ++ " " ++ c.level.flag ++ " -Wall -Wextra"

/-- Summary, compiler, dialect and level in columns. -/
def chars (c : Case) : List Char :=
  padRight 12 c.declarations.summary ++ ' ' :: padRight 5 c.compiler.name.toList ++
    ' ' :: padRight 7 c.dialect.spelling.toList ++ ' ' :: padRight 3 c.level.flag.toList

def text (c : Case) : String :=
  String.ofList c.chars

end Case

/-- A text of a case that cannot be read. -/
inductive CaseTextError where
  | qualifier (e : UnknownQualifier)
  | setting (e : UnknownSetting)
  deriving DecidableEq, Repr

def CaseTextError.message : CaseTextError → String
  | .qualifier e => e.message
  | .setting e => e.message

/-- The texts of a case. -/
structure CaseTexts where
  prototype : Option String
  definition : String
  compiler : String
  dialect : String
  level : String

/-- Reads a case from its texts: the declarations first, then compiler, dialect and level. The first
text that cannot be read is the error. -/
def Case.ofTexts (t : CaseTexts) : Except CaseTextError Case := do
  let declarations ← (Declarations.ofTexts t.prototype t.definition).mapError .qualifier
  let compiler ← (Compiler.ofText t.compiler).mapError .setting
  let dialect ← (Dialect.ofText t.dialect).mapError .setting
  let level ← (Level.ofText t.level).mapError .setting
  return ⟨declarations, compiler, dialect, level⟩

end InlineLinkage
