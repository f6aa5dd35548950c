import InlineLinkage.Text.Number

/-!
# JSON tokens

A JSON text is a row of tokens with white space between them. A string token keeps what its escapes
spell one by one, so that half of a surrogate pair is a token like any other and only its use as text
fails. A number token keeps its digits, so that its range is a question for whoever uses it.
-/
namespace InlineLinkage.Json

open InlineLinkage.Text

/-- A piece of a string: a character, or one number of a surrogate pair. -/
inductive Piece where
  | char (c : Char)
  | surrogate (n : Nat)
  deriving DecidableEq, Repr

/-- The digits of a number as written. A missing fraction has no digits. -/
structure Number where
  negative : Bool
  whole : List Nat
  fraction : List Nat
  exponent : Option (Bool × List Nat)
  deriving DecidableEq, Repr

inductive Token where
  | null
  | bool (b : Bool)
  | number (n : Number)
  | string (s : List Piece)
  | openArray
  | closeArray
  | openObject
  | closeObject
  | comma
  | colon
  deriving DecidableEq, Repr

/-- White space between tokens. -/
def isSpace (c : Char) : Bool :=
  c == ' ' || c == '\n' || c == '\r' || c == '\t'

/-- The value of a digit in base sixteen. -/
def hexValue? (c : Char) : Option Nat :=
  if c.isDigit then some (c.toNat - '0'.toNat)
  else if 'a' ≤ c ∧ c ≤ 'f' then some (c.toNat - 'a'.toNat + 10)
  else if 'A' ≤ c ∧ c ≤ 'F' then some (c.toNat - 'A'.toNat + 10)
  else none

/-- The piece that a number of sixteen bits stands for. -/
def Piece.ofUnit (n : Nat) : Piece :=
  if 0xd800 ≤ n ∧ n ≤ 0xdfff then .surrogate n else .char (Char.ofNat n)

/-- The character of a short escape. -/
def shortEscape? (c : Char) : Option Char :=
  match c with
  | '"' => some '"'
  | '\\' => some '\\'
  | '/' => some '/'
  | 'b' => some '\x08'
  | 'f' => some '\x0c'
  | 'n' => some '\n'
  | 'r' => some '\r'
  | 't' => some '\t'
  | _ => none

/-- The pieces of a string after those already read, which are given reversed, and the text after the
closing quote. A control character ends the attempt. -/
def piecesFrom (read : List Piece) : List Char → Option (List Piece × List Char)
  | [] => none
  | '"' :: rest => some (read.reverse, rest)
  | '\\' :: 'u' :: a :: b :: c :: d :: rest =>
    match hexValue? a, hexValue? b, hexValue? c, hexValue? d with
    | some a, some b, some c, some d =>
      piecesFrom (Piece.ofUnit (((a * 16 + b) * 16 + c) * 16 + d) :: read) rest
    | _, _, _, _ => none
  | '\\' :: c :: rest =>
    match shortEscape? c with
    | some c => piecesFrom (.char c :: read) rest
    | none => none
  | c :: rest => if c.toNat < 0x20 ∨ c = '\\' then none else piecesFrom (.char c :: read) rest

/-- The digits at the start of a text, after those already read, and the text after them. -/
def digitsFrom (read : List Nat) : List Char → List Nat × List Char
  | [] => (read.reverse, [])
  | c :: rest =>
    if c.isDigit then digitsFrom (digitValue c :: read) rest else (read.reverse, c :: rest)

/-- A row of at least one digit. -/
def someDigits? (s : List Char) : Option (List Nat × List Char) :=
  match digitsFrom [] s with
  | ([], _) => none
  | (digits, rest) => some (digits, rest)

/-- The digits before the point. A zero stands alone. -/
def whole? (s : List Char) : Option (List Nat × List Char) :=
  match someDigits? s with
  | some (0 :: _ :: _, _) => none
  | other => other

/-- The digits after a point, when there is one. -/
def fraction? (s : List Char) : Option (List Nat × List Char) :=
  match s with
  | '.' :: rest => someDigits? rest
  | _ => some ([], s)

/-- The exponent, when there is one. -/
def exponent? (s : List Char) : Option (Option (Bool × List Nat) × List Char) :=
  match s with
  | c :: rest =>
    if c = 'e' ∨ c = 'E' then
      let (negative, rest) := match rest with
        | '-' :: rest => (true, rest)
        | '+' :: rest => (false, rest)
        | _ => (false, rest)
      (someDigits? rest).map fun (digits, rest) => (some (negative, digits), rest)
    else some (none, s)
  | [] => some (none, [])

/-- A number at the start of a text. -/
def number? (s : List Char) : Option (Number × List Char) := do
  let (negative, s) := match s with
    | '-' :: rest => (true, rest)
    | _ => (false, s)
  let (whole, s) ← whole? s
  let (fraction, s) ← fraction? s
  let (exponent, s) ← exponent? s
  return (⟨negative, whole, fraction, exponent⟩, s)

/-- A token at the start of a text that does not start with white space. -/
def token? (s : List Char) : Option (Token × List Char) :=
  match s with
  | '[' :: rest => some (.openArray, rest)
  | ']' :: rest => some (.closeArray, rest)
  | '{' :: rest => some (.openObject, rest)
  | '}' :: rest => some (.closeObject, rest)
  | ',' :: rest => some (.comma, rest)
  | ':' :: rest => some (.colon, rest)
  | '"' :: rest => (piecesFrom [] rest).map fun (pieces, rest) => (.string pieces, rest)
  | 'n' :: 'u' :: 'l' :: 'l' :: rest => some (.null, rest)
  | 't' :: 'r' :: 'u' :: 'e' :: rest => some (.bool true, rest)
  | 'f' :: 'a' :: 'l' :: 's' :: 'e' :: rest => some (.bool false, rest)
  | _ => (number? s).map fun (n, rest) => (.number n, rest)

/-- The tokens of a text after those already read, which are given reversed. Every token takes at least
one character, so the length of the text bounds the number of steps. -/
def tokensFrom (read : List Token) : Nat → List Char → Option (List Token)
  | _, [] => some read.reverse
  | 0, _ => none
  | steps + 1, c :: rest =>
    if isSpace c then tokensFrom read steps rest
    else
      match token? (c :: rest) with
      | some (t, rest) => tokensFrom (t :: read) steps rest
      | none => none

/-- The tokens of a text. -/
def tokens? (s : List Char) : Option (List Token) :=
  tokensFrom [] s.length s

end InlineLinkage.Json
