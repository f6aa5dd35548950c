import InlineLinkage.Text.Number

/-!
# Reading a number of seconds

A decimal text, with or without fraction and exponent, or the word for infinity or for no number, is
read as the nearest number of 64 bits.
-/
namespace InlineLinkage.Decimal

open InlineLinkage.Text

/-- A row of digits at the start of a text, and the rest. -/
def spanDigits (s : List Char) : List Char × List Char :=
  s.span Char.isDigit

/-- An optional sign, and the rest. -/
def spanSign : List Char → Bool × List Char
  | '-' :: rest => (true, rest)
  | '+' :: rest => (false, rest)
  | s => (false, s)

/-- The exponent that ends a decimal text: none, or a letter and a whole number. -/
def exponent? : List Char → Option Int
  | [] => some 0
  | c :: rest =>
    if c = 'e' ∨ c = 'E' then
      let (negative, digits) := spanSign rest
      if digits ≠ [] ∧ digits.all Char.isDigit then
        let n : Int := ofDigitChars digits
        some (if negative then -n else n)
      else none
    else none

/-- The nearest number to `digits * 10 ^ exponent`. Exponents far outside the format need no power. -/
def ofScientific (digits : Nat) (count : Nat) (exponent : Int) : Float :=
  if digits = 0 then 0.0
  else if exponent + count < -400 then 0.0
  else if 400 < exponent + count then 1.0 / 0.0
  else if exponent < 0 then Float.ofScientific digits true exponent.natAbs
  else Float.ofScientific digits false exponent.natAbs

/-- A number without its sign. -/
def unsigned? (s : List Char) : Option Float :=
  let word := String.ofList (s.map Char.toLower)
  if word = "inf" ∨ word = "infinity" then some (1.0 / 0.0)
  else if word = "nan" then some (0.0 / 0.0)
  else
    let (whole, rest) := spanDigits s
    let (fraction, rest) := match rest with
      | '.' :: rest => spanDigits rest
      | _ => ([], rest)
    if whole = [] ∧ fraction = [] then none
    else
      (exponent? rest).map fun e =>
        let digits := whole ++ fraction
        ofScientific (ofDigitChars digits) digits.length (e - fraction.length)

/-- The number that a text denotes. -/
def readFloat? (s : String) : Option Float :=
  let (negative, rest) := spanSign s.toList
  (unsigned? rest).map fun x => if negative then -x else x

end InlineLinkage.Decimal
