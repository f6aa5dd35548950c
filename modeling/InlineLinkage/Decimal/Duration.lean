import InlineLinkage.Decimal.Binary64
import InlineLinkage.Text.Column
import InlineLinkage.Text.Number

/-!
# Durations

A span of time in whole nanoseconds. A number of seconds becomes the nearest one, a half going to the
even neighbour, as long as its whole seconds fit 64 bits.
-/
namespace InlineLinkage.Decimal

open InlineLinkage.Text

structure Duration where
  nanoseconds : Nat
  deriving DecidableEq, Repr

namespace Duration

def nanosecondsPerSecond : Nat := Nat.pow 10 9

/-- The duration of a positive number of seconds. There is none for zero, for a negative number, and
for one whose seconds do not fit 64 bits. -/
def ofSeconds? : Reading → Option Duration
  | .finite x =>
    if x.negative || x.significand == 0 then none
    else
      let n := roundHalfEven (x.significand * nanosecondsPerSecond * Nat.pow 2 x.exponent.toNat)
        (Nat.pow 2 (-x.exponent).toNat)
      if n / nanosecondsPerSecond < Nat.pow 2 64 then some ⟨n⟩ else none
  | _ => none

/-- Seconds, a point, and nine digits. -/
def chars (d : Duration) : List Char :=
  let fraction := natChars (d.nanoseconds % nanosecondsPerSecond)
  natChars (d.nanoseconds / nanosecondsPerSecond) ++
    '.' :: List.replicate (9 - fraction.length) '0' ++ fraction

def text (d : Duration) : String :=
  String.ofList d.chars

end Duration

end InlineLinkage.Decimal
