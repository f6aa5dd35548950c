/-!
# Numbers in decimal

Digits of natural numbers and integers, and the reading of a row of digits.
-/
namespace InlineLinkage.Text

/-- The digits of a natural number, without leading zeros. -/
def natChars (n : Nat) : List Char :=
  Nat.toDigits 10 n

/-- An integer with a minus sign when negative. -/
def intChars (n : Int) : List Char :=
  match n with
  | .ofNat n => natChars n
  | .negSucc n => '-' :: natChars (n + 1)

/-- The value of an ASCII digit. -/
def digitValue (c : Char) : Nat :=
  c.toNat - '0'.toNat

/-- The number that a row of digit values denotes after the digits already read. -/
def ofDigitsFrom (start : Nat) (digits : List Nat) : Nat :=
  digits.foldl (fun n d => n * 10 + d) start

/-- The number that a row of ASCII digits denotes. -/
def ofDigitChars (s : List Char) : Nat :=
  ofDigitsFrom 0 (s.map digitValue)

end InlineLinkage.Text
