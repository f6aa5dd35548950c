import InlineLinkage.Outcome
import InlineLinkage.Json.Compact
import InlineLinkage.Json.Decode

/-!
# Encoded outcomes

An outcome as JSON: a record of the verdict and the list of warnings. An outcome has one encoding,
while a reader takes the warnings in any order and number.
-/
namespace InlineLinkage

open Json

namespace Diagnostic

def toJson : Diagnostic → Value
  | .staticInconsistent s => .object [(pieces "static_inconsistent", .text s.name)]
  | .gnuInlineInconsistent s => .object [(pieces "gnu_inline_inconsistent", .text s.name)]
  | d => .text d.name

def ofJson? (v : Value) : Option Diagnostic :=
  match v.variant? with
  | some ("static_inconsistent", some style) =>
    style.name?.bind fun n => (StaticStyle.all.find? fun s => s.name == n).map .staticInconsistent
  | some ("gnu_inline_inconsistent", some style) =>
    style.name?.bind fun n =>
      (GnuInlineStyle.all.find? fun s => s.name == n).map .gnuInlineInconsistent
  | _ => v.name?.bind fun n => plain.find? fun d => d.name == n

end Diagnostic

namespace Verdict

def toJson : Verdict → Value
  | .success m => .object [(pieces "success", .text m.name)]
  | .diagnostic d => .object [(pieces "diagnostic", d.toJson)]

def ofJson? (v : Value) : Option Verdict :=
  match v.variant? with
  | some ("success", some mode) =>
    mode.name?.bind fun n => (SuccessMode.all.find? fun m => m.name == n).map .success
  | some ("diagnostic", some d) => (Diagnostic.ofJson? d).map .diagnostic
  | _ => none

end Verdict

namespace Warnings

def toJson (ws : Warnings) : Value :=
  .array (ws.toList.map fun w => .text w.name)

def ofJson? (v : Value) : Option Warnings :=
  v.items?.bind fun items =>
    (items.mapM fun (item : Value) => item.name?.bind Warning.ofName?).map ofList

end Warnings

namespace Outcome

def toJson (o : Outcome) : Value :=
  .object [(pieces "verdict", o.verdict.toJson), (pieces "warnings", o.warnings.toJson)]

def ofJson? (v : Value) : Option Outcome :=
  match v.fields? ["verdict", "warnings"] .skipped with
  | some [some verdict, some warnings] => do
    let verdict ← Verdict.ofJson? verdict
    let warnings ← Warnings.ofJson? warnings
    return ⟨verdict, warnings⟩
  | _ => none

/-- The one text that encodes an outcome. -/
def encodedChars (o : Outcome) : List Char :=
  o.toJson.compactChars

def encoded (o : Outcome) : String :=
  String.ofList o.encodedChars

/-- The outcome that a text encodes. -/
def ofEncoded? (s : String) : Option Outcome :=
  (Value.ofString? s).bind ofJson?

end Outcome

end InlineLinkage
