import InlineLinkage.Decimal.Binary64
import InlineLinkage.Text.Number

/-!
# Shortest decimals

The decimal text of a binary fraction: the fewest digits that read back as the same number, and of
those the nearest to it. It is always written out in full, without an exponent.
-/
namespace InlineLinkage.Decimal

open InlineLinkage.Text

/-- The number `digits * 10 ^ exponent`. -/
structure Scientific where
  digits : Nat
  exponent : Int
  deriving DecidableEq, Repr

/-- The number of decimal places before the point of `num / den`, counted negative when the quotient
starts with zeros after the point. -/
def magnitude (num den : Nat) : Int :=
  if den ≤ num then (natChars (num / den)).length
  else 1 - ((List.range 400).find? fun t => den ≤ num * Nat.pow 10 t).getD 0

/-- On the grid of decimals with `count` digits, the neighbour of a number that reads back as it: the
nearer of its two neighbours when both do. -/
def onGrid? (x : Binary64) (count : Nat) : Option Scientific :=
  let m := x.significand
  let up := Nat.pow 2 (x.exponent - 2).toNat
  let down := Nat.pow 2 (2 - x.exponent).toNat
  let place := magnitude (4 * m * up) down - count
  let scale := up * Nat.pow 10 (-place).toNat
  let unit := down * Nat.pow 10 place.toNat
  let value := 4 * m * scale
  let below := if m = Nat.pow 2 52 ∧ x.exponent ≠ -1074 then 1 else 2
  let low := (4 * m - below) * scale
  let high := (4 * m + 2) * scale
  let inside := fun n => if m % 2 = 0 then low ≤ n ∧ n ≤ high else low < n ∧ n < high
  let a := value / unit
  let lower := a * unit
  let upper := (a + 1) * unit
  if inside lower then
    if inside upper ∧ upper - value < value - lower then some ⟨a + 1, place⟩ else some ⟨a, place⟩
  else if inside upper then some ⟨a + 1, place⟩
  else none

/-- The shortest decimal that reads back as a number. Seventeen digits are always enough. -/
def shortest (x : Binary64) : Scientific :=
  if x.significand = 0 then ⟨0, 0⟩
  else ((List.range 17).findSome? fun i => onGrid? x (i + 1)).getD ⟨0, 0⟩

/-- Digits without the zeros at their end, which go into the exponent. -/
def Scientific.normalize (s : Scientific) : Scientific :=
  let zeros := ((natChars s.digits).reverse.takeWhile (· == '0')).length
  if s.digits = 0 then ⟨0, 0⟩ else ⟨s.digits / Nat.pow 10 zeros, s.exponent + zeros⟩

/-- A number written out in full. -/
def Scientific.chars (s : Scientific) : List Char :=
  let ds := natChars s.digits
  match s.exponent with
  | .ofNat n => if s.digits = 0 then ['0'] else ds ++ List.replicate n '0'
  | .negSucc n =>
    let places := n + 1
    if ds.length ≤ places then
      '0' :: '.' :: List.replicate (places - ds.length) '0' ++ ds
    else ds.take (ds.length - places) ++ '.' :: ds.drop (ds.length - places)

/-- The text of a number. -/
def Reading.chars : Reading → List Char
  | .notANumber => ['N', 'a', 'N']
  | .infinite negative => (if negative then ['-'] else []) ++ ['i', 'n', 'f']
  | .finite x => (if x.negative then ['-'] else []) ++ (shortest x).normalize.chars

end InlineLinkage.Decimal
