import InlineLinkage.Qualifier

/-!
# Declarations of one function

The qualifiers on the forward declaration, if there is one, and on the definition. Without a forward
declaration the definition is the first declaration that a compiler sees. No forward declaration and
one without qualifiers are different.
-/
namespace InlineLinkage

structure Declarations where
  /-- The forward declaration. None is written at all when there is no value. -/
  prototype : Option Qualifiers
  definition : Qualifiers
  deriving DecidableEq, Repr

namespace Declarations

/-- The same qualifiers on both. -/
def symmetric (qs : Qualifiers) : Declarations :=
  ⟨some qs, qs⟩

/-- A definition without a forward declaration. -/
def definitionOnly (qs : Qualifiers) : Declarations :=
  ⟨none, qs⟩

/-- The qualifiers of the first declaration. -/
def first (d : Declarations) : Qualifiers :=
  d.prototype.getD d.definition

@[simp] theorem first_some (p d : Qualifiers) : (⟨some p, d⟩ : Declarations).first = p := rfl

@[simp] theorem first_none (d : Qualifiers) : (⟨none, d⟩ : Declarations).first = d := rfl

/-- Reads both sides, the forward declaration first. -/
def ofTexts (prototype : Option String) (definition : String) :
    Except UnknownQualifier Declarations :=
  match prototype with
  | none => (Qualifiers.ofText definition).map definitionOnly
  | some p =>
    match Qualifiers.ofText p with
    | .error e => .error e
    | .ok p => (Qualifiers.ofText definition).map fun d => ⟨some p, d⟩

/-- The letters of both sides. A dash stands for a missing forward declaration. -/
def summary (d : Declarations) : List Char :=
  (match d.prototype with
    | some p => p.summary
    | none => ['-']) ++ ';' :: d.definition.summary

end Declarations

end InlineLinkage
