import InlineLinkage.Case
import InlineLinkage.Json.Compact
import InlineLinkage.Json.Decode

/-!
# Encoded cases

A case as JSON: a record of declarations, compiler, dialect and level. A missing forward declaration
is written as `null`, and read also when its field is missing.
-/
namespace InlineLinkage

open Json

namespace Qualifiers

def toJson (qs : Qualifiers) : Value :=
  .array (qs.map fun q => .text q.name)

def ofJson? (v : Value) : Option Qualifiers :=
  v.items?.bind fun items => items.mapM fun (item : Value) => item.name?.bind Qualifier.ofName?

end Qualifiers

namespace Declarations

def toJson (d : Declarations) : Value :=
  .object [(pieces "prototype_qualifiers", d.prototype.elim .null Qualifiers.toJson),
    (pieces "definition_qualifiers", Qualifiers.toJson d.definition)]

def ofJson? (v : Value) : Option Declarations :=
  match v.fields? ["prototype_qualifiers", "definition_qualifiers"] .skipped with
  | some [prototype, some definition] => do
    let prototype ← optional? Qualifiers.ofJson? prototype
    let definition ← Qualifiers.ofJson? definition
    return ⟨prototype, definition⟩
  | _ => none

end Declarations

namespace Case

def toJson (c : Case) : Value :=
  .object [(pieces "inlining", c.declarations.toJson), (pieces "compiler", .text c.compiler.name),
    (pieces "language", .text c.dialect.name), (pieces "optimization", .text c.level.name)]

def ofJson? (v : Value) : Option Case :=
  match v.fields? ["inlining", "compiler", "language", "optimization"] .skipped with
  | some [some declarations, some compiler, some dialect, some level] => do
    let declarations ← Declarations.ofJson? declarations
    let compiler ← compiler.name?.bind Compiler.ofName?
    let dialect ← dialect.name?.bind Dialect.ofName?
    let level ← level.name?.bind Level.ofName?
    return ⟨declarations, compiler, dialect, level⟩
  | _ => none

/-- The one text that encodes a case. -/
def encoded (c : Case) : String :=
  c.toJson.compact

/-- The case that a text encodes. -/
def ofEncoded? (s : String) : Option Case :=
  (Value.ofString? s).bind ofJson?

end Case

end InlineLinkage
