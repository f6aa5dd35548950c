import InlineLinkage.Case
import InlineLinkage.Outcome

/-!
# Predictions

How the compiler treats a case. A compile-time diagnostic comes before all linking; of several, the one
whose rule stands first is reported. A build without one ends with the verdict of the linker. Warnings
never change the verdict.

The rules see the two sides of a case: the first declaration and the definition, which are the same
when there is no forward declaration.
-/
namespace InlineLinkage

/-- The qualifiers of the first declaration and of the definition. -/
structure Sides where
  first : Qualifiers
  definition : Qualifiers
  deriving DecidableEq, Repr

namespace Sides

/-- Some side has an inline spelling. -/
def inlineSomewhere (s : Sides) : Bool :=
  s.first.hasAnyInline || s.definition.hasAnyInline

/-- Both sides have an inline spelling. -/
def inlineEverywhere (s : Sides) : Bool :=
  s.first.hasAnyInline && s.definition.hasAnyInline

def gnuInline (s : Sides) : Bool :=
  s.first.hasGnuInline || s.definition.hasGnuInline

def alwaysInline (s : Sides) : Bool :=
  s.first.hasAlwaysInline || s.definition.hasAlwaysInline

def isStatic (s : Sides) : Bool :=
  s.first.isStatic || s.definition.isStatic

/-- The word `inline` itself is used. -/
def usesInlineKeyword (s : Sides) : Bool :=
  s.first.hasInline || s.definition.hasInline

/-- One side is both `static` and `extern`. -/
def storageConflict (s : Sides) : Bool :=
  (s.first.isStatic && s.first.isExternal) || (s.definition.isStatic && s.definition.isExternal)

def duplicateInline (s : Sides) : Bool :=
  s.first.hasBothInlines || s.definition.hasBothInlines

/-- The definition is `static` and the first declaration was not. -/
def lateStatic (s : Sides) : Bool :=
  !s.first.isStatic && s.definition.isStatic

/-- Both sides are inline and only one of them has `gnu_inline`. -/
def gnuInlineDrift (s : Sides) : Bool :=
  s.inlineEverywhere && s.first.hasGnuInline != s.definition.hasGnuInline

/-- A side has `gnu_inline` without an inline spelling. -/
def gnuInlineAlone (s : Sides) : Bool :=
  (s.first.hasGnuInline && !s.first.hasAnyInline) ||
    (s.definition.hasGnuInline && !s.definition.hasAnyInline)

/-- A late `static` is no error after an inline declaration that promised no symbol to other files. -/
def toleratesLateStatic (s : Sides) (family : Family) : Bool :=
  match family with
  | .gnu89 => s.first.hasAnyInline && s.first.isExternal
  | .c99 =>
    (s.first.hasAnyInline && !s.first.hasGnuInline && !s.first.isExternal) ||
      (s.first.hasAnyInline && s.first.hasGnuInline && s.first.isExternal &&
        !s.definition.isExternal)
  | .cxx => false

def staticStyle (s : Sides) (family : Family) : StaticStyle :=
  match family with
  | .cxx => .externQualified
  | .c99 =>
    if s.first.hasAnyInline && !s.first.hasGnuInline && !s.definition.isExternal then .neverDefined
    else .plain
  | .gnu89 => .plain

def gnuInlineStyle (s : Sides) (family : Family) : GnuInlineStyle :=
  match family with
  | .cxx => if s.first.hasGnuInline then .redeclaredWithout else .redeclaredWith
  | _ => .present

/-- What stops the compilation of a file. A late `static` hides `gnu_inline` drift in C. -/
def compileDiagnostic? (s : Sides) (dialect : Dialect) : Option Diagnostic :=
  let family := dialect.family
  if !dialect.supportsInline && s.usesInlineKeyword then some .inlineNotSupported
  else if s.storageConflict then
    some (if family = .cxx then .conflictingSpecifiers else .multipleStorageClasses)
  else if family = .cxx && s.duplicateInline then some .duplicateInline
  else if s.gnuInlineDrift && (family = .cxx || !s.lateStatic) then
    some (.gnuInlineInconsistent (s.gnuInlineStyle family))
  else if s.lateStatic && !s.toleratesLateStatic family then
    some (.staticInconsistent (s.staticStyle family))
  else none

/-- A body that is not emitted for other files can only be inlined. Without optimization that happens
only when it is forced. -/
def inlinedOrUndefined (s : Sides) (level : Level) : Verdict :=
  if level.isUnoptimized && !s.alwaysInline then .diagnostic .undefinedReference
  else .success .useInlineDefinition

/-- Before C99, an `extern inline` definition is a body for inlining only. -/
def gnu89Verdict (s : Sides) (level : Level) : Verdict :=
  if (s.first.isExternal || !s.first.hasAnyInline) && s.definition.isExternal &&
      s.definition.hasAnyInline then
    s.inlinedOrUndefined level
  else .diagnostic .multipleDefinition

/-- From C99 on, an inline definition without `extern` is a body for inlining only, and with
`gnu_inline` the older rule holds. -/
def c99Verdict (s : Sides) (level : Level) : Verdict :=
  let p := s.first
  let d := s.definition
  if p.hasAnyInline && p.isExternal && d.hasAnyInline && !d.isExternal then
    .diagnostic .multipleDefinition
  else if p.hasAnyInline && p.hasGnuInline && !p.isExternal then .diagnostic .multipleDefinition
  else if !p.hasAnyInline && p.hasGnuInline && d.hasAnyInline && d.isExternal &&
      !d.hasGnuInline then
    .diagnostic .multipleDefinition
  else if d.isExternal && d.hasAnyInline && s.gnuInline then s.inlinedOrUndefined level
  else if !s.inlineEverywhere then .diagnostic .multipleDefinition
  else if d.isExternal || s.gnuInline || p.isExternalOnly then .diagnostic .multipleDefinition
  else s.inlinedOrUndefined level

/-- In C++ the linker keeps one of several inline bodies. -/
def cxxVerdict (s : Sides) (level : Level) : Verdict :=
  if level.isUnoptimized && !s.alwaysInline then
    if s.definition.hasAnyInline && s.definition.hasGnuInline then .diagnostic .undefinedReference
    else .success .linkOnceEither
  else .success .useInlineDefinition

/-- What becomes of a case whose two files were compiled. -/
def linkVerdict (s : Sides) (family : Family) (level : Level) : Verdict :=
  if s.isStatic then .success .useInlineDefinition
  else if !s.inlineSomewhere then .diagnostic .multipleDefinition
  else
    match family with
    | .gnu89 => s.gnu89Verdict level
    | .c99 => s.c99Verdict level
    | .cxx => s.cxxVerdict level

/-- The warnings of a case whose two files were compiled. -/
def compiledWarnings (s : Sides) (family : Family) : Warnings where
  gnuInlineIgnored := s.gnuInlineAlone
  alwaysInlineIgnored := s.alwaysInline && !s.inlineSomewhere
  inlineNeverDefined :=
    s.lateStatic && family == .c99 && s.inlineSomewhere && !s.first.hasGnuInline

/-- The outcome for a compiler whose rules these are. -/
def outcome (s : Sides) (dialect : Dialect) (level : Level) : Outcome :=
  match s.compileDiagnostic? dialect with
  | some d => ⟨.diagnostic d, { gnuInlineIgnored := s.gnuInlineAlone }⟩
  | none => ⟨s.linkVerdict dialect.family level, s.compiledWarnings dialect.family⟩

end Sides

/-- A case that no rule covers. -/
structure UnknownCase where
  spec : Case
  deriving DecidableEq, Repr

def UnknownCase.message (e : UnknownCase) : String :=
  "unknown case: no rule models " ++ e.spec.text ++ " (only gcc diagnostics are modeled)"

namespace Case

def sides (c : Case) : Sides :=
  ⟨c.declarations.first, c.declarations.definition⟩

/-- The predicted outcome. There are rules for one compiler only. -/
def predict (c : Case) : Except UnknownCase Outcome :=
  match c.compiler with
  | .gcc => .ok (c.sides.outcome c.dialect c.level)
  | .clang => .error ⟨c⟩

end Case

end InlineLinkage
