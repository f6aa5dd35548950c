/-!
# Binary fractions of 64 bits

A finite number of this format is a whole number of at most fifty-three bits times a power of two. The
parts are exact, so that printing and rounding can be done in natural numbers.
-/
namespace InlineLinkage.Decimal

/-- The number `significand * 2 ^ exponent` with its sign. -/
structure Binary64 where
  negative : Bool
  significand : Nat
  exponent : Int
  deriving DecidableEq, Repr

/-- What a bit pattern denotes. -/
inductive Reading where
  | notANumber
  | infinite (negative : Bool)
  | finite (number : Binary64)
  deriving DecidableEq, Repr

namespace Binary64

/-- The reading of a bit pattern: a sign bit, eleven bits of exponent and fifty-two of fraction. -/
def ofBits (bits : UInt64) : Reading :=
  let n := bits.toNat
  let negative := n / Nat.pow 2 63 == 1
  let field : Nat := n / Nat.pow 2 52 % Nat.pow 2 11
  let fraction : Nat := n % Nat.pow 2 52
  if field = 2047 then if fraction = 0 then .infinite negative else .notANumber
  else if field = 0 then .finite ⟨negative, fraction, -1074⟩
  else .finite ⟨negative, Nat.pow 2 52 + fraction, Int.ofNat field - 1075⟩

def ofFloat (x : Float) : Reading :=
  ofBits x.toBits

end Binary64

/-- A quotient rounded to the nearest whole number, a half to the even neighbour. -/
def roundHalfEven (num den : Nat) : Nat :=
  let q := num / den
  let r := num % den
  if 2 * r < den then q else if den < 2 * r then q + 1 else if q % 2 = 0 then q else q + 1

example : (List.range 9).map (roundHalfEven · 4) = [0, 0, 0, 1, 1, 1, 2, 2, 2] := by decide

end InlineLinkage.Decimal
