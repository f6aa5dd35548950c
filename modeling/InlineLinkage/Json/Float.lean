import InlineLinkage.Json.Value

/-!
# JSON numbers of 64 bits

The leading digits that fit a word of 64 bits make the significand. It is converted once and then
multiplied or divided by a power of ten, so the result can differ from the nearest number in its last
place. A number too large for the format is refused, one too small becomes zero.
-/
namespace InlineLinkage.Json

/-- A significand extended by digits as long as it fits 64 bits, and how many digits were taken. -/
def extend (m : Nat) : List Nat → Nat × Nat
  | [] => (m, 0)
  | d :: rest =>
    if m * 10 + d < Nat.pow 2 64 then
      let (m, taken) := extend (m * 10 + d) rest
      (m, taken + 1)
    else (m, 0)

/-- The greatest exponent that is read as written. -/
def exponentLimit : Nat := Nat.pow 2 31 - 1

/-- The largest power of ten of the format. -/
def largestPower : Nat := 308

def powerOfTen (n : Nat) : Float :=
  Float.ofScientific 1 false n

/-- A significand times a power of ten. A power below the format is reached in steps. -/
def scale? (steps : Nat) (f : Float) (exponent : Int) : Option Float :=
  if exponent.natAbs ≤ largestPower then
    if 0 ≤ exponent then
      let f := f * powerOfTen exponent.natAbs
      if f.isInf then none else some f
    else some (f / powerOfTen exponent.natAbs)
  else if f == 0.0 then some f
  else if 0 ≤ exponent then none
  else
    match steps with
    | 0 => some 0.0
    | steps + 1 => scale? steps (f / powerOfTen largestPower) (exponent + largestPower)

/-- The number without its sign. -/
def Number.magnitude? (n : Number) : Option Float :=
  let (m, taken) := extend 0 n.whole
  let dropped := n.whole.length - taken
  let (m, places) := extend m n.fraction
  let start : Int := (dropped : Int) - places
  let f := m.toUInt64.toFloat
  match n.exponent with
  | none => scale? 3 f start
  | some (negative, digits) =>
    let e := Text.ofDigitsFrom 0 digits
    if exponentLimit < e then if m ≠ 0 ∧ ¬ negative then none else some 0.0
    else scale? 3 f (if negative then start - e else start + e)

/-- The number of 64 bits that a token stands for. -/
def Number.float? (n : Number) : Option Float :=
  n.magnitude?.map fun f => if n.negative then -f else f

end InlineLinkage.Json
