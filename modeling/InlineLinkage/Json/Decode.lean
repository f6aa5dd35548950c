import InlineLinkage.Json.Value

/-!
# Reading typed data from JSON

A record is an object with its fields in any order, or an array of its fields in their order. A choice
is the name of a variant, or an object with that name as its only key and the variant's content as
value; a variant without content has `null` there.
-/
namespace InlineLinkage.Json

/-- What happens to a member that is no field of a record. -/
inductive Unknown where
  | skipped
  | refused
  deriving DecidableEq, Repr

/-- The members of an object under their names. A name that is no text is refused. -/
def namedMembers? : List (List Piece × Value) → Option (List (String × Value))
  | [] => some []
  | (key, v) :: rest => do
    let name ← piecesText? key
    let rest ← namedMembers? rest
    return (name, v) :: rest

/-- The member with a name. A name that occurs twice is refused. -/
def field? (members : List (String × Value)) (name : String) : Option (Option Value) :=
  match members.filter fun m => m.1 == name with
  | [] => some none
  | [m] => some (some m.2)
  | _ => none

/-- The fields of a record in their order, each with its value when it is there. -/
def Value.fields? (v : Value) (names : List String) (unknown : Unknown) :
    Option (List (Option Value)) :=
  match v with
  | .object members => do
    let members ← namedMembers? members
    if unknown = .refused ∧ ¬ members.all fun m => names.contains m.1 then none
    else names.mapM (field? members)
  | .array items =>
    if names.length < items.length then none
    else some (items.map some ++ List.replicate (names.length - items.length) none)
  | _ => none

/-- The variant of a choice, and its content when it has one. -/
def Value.variant? : Value → Option (String × Option Value)
  | .string s => (piecesText? s).map fun name => (name, none)
  | .object [(key, v)] => (piecesText? key).map fun name => (name, some v)
  | _ => none

/-- A choice among names alone. -/
def Value.name? (v : Value) : Option String :=
  match v.variant? with
  | some (name, none) => some name
  | some (name, some .null) => some name
  | _ => none

def Value.items? : Value → Option (List Value)
  | .array items => some items
  | _ => none

def Value.text? : Value → Option String
  | .string s => piecesText? s
  | _ => none

/-- An optional value: `null` is the same as no value. -/
def optional? {α : Type} (read : Value → Option α) : Option Value → Option (Option α)
  | none => some none
  | some .null => some none
  | some v => (read v).map some

/-- The natural number below a bound that a token spells without sign, fraction and exponent. -/
def Number.natBelow? (n : Number) (bound : Nat) : Option Nat :=
  if n.negative ∨ n.fraction ≠ [] ∨ n.exponent ≠ none then none
  else
    let k := Text.ofDigitsFrom 0 n.whole
    if k < bound then some k else none

end InlineLinkage.Json
