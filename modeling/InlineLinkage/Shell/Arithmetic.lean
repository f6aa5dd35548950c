import InlineLinkage.Shell.Raw

/-!
# Arithmetic expressions

Expressions over signed numbers of sixty-four bits, which wrap. Division goes toward zero. A name stands
for the number that its variable holds, and an assignment changes it.
-/
namespace InlineLinkage.Shell

open Text

namespace Arithmetic

inductive BinaryOp where
  | times | quotient | remainder | plus | minus | shiftLeft | shiftRight
  | less | atMost | greater | atLeast | equal | different | bitAnd | bitXor | bitOr
  deriving DecidableEq, Repr

inductive UnaryOp where
  | plus | minus | logicalNot | complement
  deriving DecidableEq, Repr

inductive Expr where
  | number (n : Int)
  | name (r : Raw)
  | unary (op : UnaryOp) (e : Expr)
  | binary (op : BinaryOp) (e f : Expr)
  | both (e f : Expr)
  | either (e f : Expr)
  | choice (test yes no : Expr)
  | assign (name : Raw) (op : Option BinaryOp) (e : Expr)

inductive Token where
  | number (n : Int)
  | name (r : Raw)
  | symbol (s : String)
  deriving DecidableEq

/-- What can be wrong with an expression. -/
inductive Fault where
  | expectingPrimary
  | expectingEnd
  | expectingParenthesis
  | expectingColon
  | divisionByZero
  | notNumber (value : Raw)
  deriving DecidableEq

/-- The message about a fault of an expression. -/
def Fault.message (expression : Raw) : Fault → Raw
  | .notNumber v => "Illegal number: ".toList ++ v
  | f =>
    let what :=
      match f with
      | .expectingPrimary => "expecting primary"
      | .expectingEnd => "expecting EOF"
      | .expectingParenthesis => "expecting ')'"
      | .expectingColon => "expecting ':'"
      | _ => "division by zero"
    "arithmetic expression: ".toList ++ what.toList ++ ": \"".toList ++ expression ++ ['"']

/-- The number of sixty-four bits with the same lowest bits. -/
def wrap (n : Int) : Int :=
  n.bmod (Nat.pow 2 64)

/-- The greatest number. -/
def greatest : Nat := Nat.pow 2 63 - 1

/-- All operators, longer ones before those that start them. -/
def symbols : List String :=
  ["<<=", ">>=", "<<", ">>", "<=", ">=", "==", "!=", "&&", "||", "+=", "-=", "*=", "/=", "%=", "&=",
    "^=", "|=", "+", "-", "*", "/", "%", "<", ">", "&", "^", "|", "!", "~", "(", ")", "?", ":", "="]

def hexDigit? (c : Char) : Option Nat :=
  if c.isDigit then some (c.toNat - '0'.toNat)
  else if 'a' ≤ c ∧ c ≤ 'f' then some (c.toNat - 'a'.toNat + 10)
  else if 'A' ≤ c ∧ c ≤ 'F' then some (c.toNat - 'A'.toNat + 10)
  else none

def isOctal (c : Char) : Bool :=
  '0' ≤ c && c ≤ '7'

/-- A number in base sixteen after `0x`, in base eight after `0`, else in base ten. -/
def cutNumber : Raw → Nat × Raw
  | '0' :: x :: rest =>
    if (x = 'x' ∨ x = 'X') ∧ (rest.head?.bind hexDigit?).isSome then
      (((rest.takeWhile fun c => (hexDigit? c).isSome).filterMap hexDigit?).foldl
          (fun n d => n * 16 + d) 0,
        rest.dropWhile fun c => (hexDigit? c).isSome)
    else
      let r := x :: rest
      ((r.takeWhile isOctal).foldl (fun n d => n * 8 + digitValue d) 0, r.dropWhile isOctal)
  | r => (ofDigitChars (r.takeWhile Char.isDigit), r.dropWhile Char.isDigit)

/-- The tokens of an expression. A character that starts none is a symbol of its own. -/
def tokens : Nat → Raw → List Token
  | 0, _ => []
  | _ + 1, [] => []
  | fuel + 1, c :: rest =>
    if c = ' ' ∨ c = '\t' ∨ c = '\n' then tokens fuel rest
    else if c.isDigit then
      let (n, after) := cutNumber (c :: rest)
      .number (min n greatest) :: tokens fuel after
    else if Raw.startsName c then
      .name (c :: rest.takeWhile Raw.continuesName) :: tokens fuel (rest.dropWhile Raw.continuesName)
    else
      match symbols.find? fun s => s.toList.isPrefixOf (c :: rest) with
      | some s => .symbol s :: tokens fuel ((c :: rest).drop s.length)
      | none => .symbol (String.singleton c) :: tokens fuel rest

/-- A binary operator and how tightly it binds. -/
def binary? : String → Option (BinaryOp × Nat)
  | "*" => some (.times, 10)
  | "/" => some (.quotient, 10)
  | "%" => some (.remainder, 10)
  | "+" => some (.plus, 9)
  | "-" => some (.minus, 9)
  | "<<" => some (.shiftLeft, 8)
  | ">>" => some (.shiftRight, 8)
  | "<" => some (.less, 7)
  | "<=" => some (.atMost, 7)
  | ">" => some (.greater, 7)
  | ">=" => some (.atLeast, 7)
  | "==" => some (.equal, 6)
  | "!=" => some (.different, 6)
  | "&" => some (.bitAnd, 5)
  | "^" => some (.bitXor, 4)
  | "|" => some (.bitOr, 3)
  | _ => none

def unary? : String → Option UnaryOp
  | "+" => some .plus
  | "-" => some .minus
  | "!" => some .logicalNot
  | "~" => some .complement
  | _ => none

/-- The operation that an assignment does first. There is none for `=`. -/
def assignment? (s : String) : Option (Option BinaryOp) :=
  if s == "=" then some none
  else if s.endsWith "=" && s != "==" && s != "!=" && s != "<=" && s != ">=" then
    (binary? (s.dropEnd 1).toString).map fun (op, _) => some op
  else none

abbrev Parsed := Except Fault (Expr × List Token)

mutual

/-- An assignment or a choice. -/
def expr : Nat → List Token → Parsed
  | 0, _ => .error .expectingPrimary
  | fuel + 1, ts =>
    match ts with
    | .name r :: .symbol s :: rest =>
      match assignment? s with
      | some op => do
        let (e, rest) ← expr fuel rest
        return (.assign r op e, rest)
      | none => choice fuel ts
    | ts => choice fuel ts

def choice : Nat → List Token → Parsed
  | 0, _ => .error .expectingPrimary
  | fuel + 1, ts => do
    let (e, rest) ← either fuel ts
    match rest with
    | .symbol "?" :: rest =>
      let (yes, rest) ← expr fuel rest
      match rest with
      | .symbol ":" :: rest =>
        let (no, rest) ← choice fuel rest
        return (.choice e yes no, rest)
      | _ => .error .expectingColon
    | rest => return (e, rest)

def either : Nat → List Token → Parsed
  | 0, _ => .error .expectingPrimary
  | fuel + 1, ts => do
    let (e, rest) ← both fuel ts
    match rest with
    | .symbol "||" :: rest =>
      let (f, rest) ← either fuel rest
      return (.either e f, rest)
    | rest => return (e, rest)

def both : Nat → List Token → Parsed
  | 0, _ => .error .expectingPrimary
  | fuel + 1, ts => do
    let (e, rest) ← binary fuel 3 ts
    match rest with
    | .symbol "&&" :: rest =>
      let (f, rest) ← both fuel rest
      return (.both e f, rest)
    | rest => return (e, rest)

/-- An expression of operators that bind at least so tightly. -/
def binary : Nat → Nat → List Token → Parsed
  | 0, _, _ => .error .expectingPrimary
  | fuel + 1, level, ts => do
    let (e, rest) ← primary fuel ts
    binaryFrom fuel level e rest

/-- An expression with what its operators add on the right. -/
def binaryFrom : Nat → Nat → Expr → List Token → Parsed
  | 0, _, _, _ => .error .expectingPrimary
  | fuel + 1, level, e, ts =>
    match ts with
    | .symbol s :: rest =>
      match binary? s with
      | some (op, tightness) =>
        if level ≤ tightness then do
          let (f, rest) ← binary fuel (tightness + 1) rest
          binaryFrom fuel level (.binary op e f) rest
        else .ok (e, ts)
      | none => .ok (e, ts)
    | ts => .ok (e, ts)

def primary : Nat → List Token → Parsed
  | 0, _ => .error .expectingPrimary
  | fuel + 1, ts =>
    match ts with
    | .number n :: rest => .ok (.number n, rest)
    | .name r :: rest => .ok (.name r, rest)
    | .symbol "(" :: rest => do
      let (e, rest) ← expr fuel rest
      match rest with
      | .symbol ")" :: rest => return (e, rest)
      | _ => .error .expectingParenthesis
    | .symbol s :: rest =>
      match unary? s with
      | some op => do
        let (e, rest) ← primary fuel rest
        return (.unary op e, rest)
      | none => .error .expectingPrimary
    | [] => .error .expectingPrimary

end

/-- The expression that a text spells. -/
def ofText (r : Raw) : Except Fault Expr := do
  let ts := tokens (r.length + 1) r
  let (e, rest) ← expr (12 * ts.length + 12) ts
  match rest with
  | [] => return e
  | _ => .error .expectingEnd

def ofBool (b : Bool) : Int :=
  if b then 1 else 0

/-- The bits of a number, as a natural number. -/
def bits (n : Int) : Nat :=
  (n % Int.pow 2 64).toNat

def binaryValue (op : BinaryOp) (a b : Int) : Except Fault Int :=
  match op with
  | .times => .ok (wrap (a * b))
  | .quotient => if b = 0 then .error .divisionByZero else .ok (min (a.tdiv b) greatest)
  | .remainder => if b = 0 then .error .divisionByZero else .ok (a.tmod b)
  | .plus => .ok (wrap (a + b))
  | .minus => .ok (wrap (a - b))
  | .shiftLeft => .ok (wrap (a * Int.pow 2 (bits b % 64)))
  | .shiftRight => .ok (a / Int.pow 2 (bits b % 64))
  | .less => .ok (ofBool (a < b))
  | .atMost => .ok (ofBool (a ≤ b))
  | .greater => .ok (ofBool (b < a))
  | .atLeast => .ok (ofBool (b ≤ a))
  | .equal => .ok (ofBool (a = b))
  | .different => .ok (ofBool (a ≠ b))
  | .bitAnd => .ok (wrap (bits a &&& bits b))
  | .bitXor => .ok (wrap (bits a ^^^ bits b))
  | .bitOr => .ok (wrap (bits a ||| bits b))

def unaryValue (op : UnaryOp) (a : Int) : Int :=
  match op with
  | .plus => a
  | .minus => wrap (-a)
  | .logicalNot => ofBool (a = 0)
  | .complement => wrap (-a - 1)

/-- A text without the blanks on its two sides. -/
def trimBlanks (r : Raw) : Raw :=
  let isBlank (c : Char) : Bool := c == ' ' || ('\t' ≤ c && c ≤ '\r')
  ((r.dropWhile isBlank).reverse.dropWhile isBlank).reverse

/-- A number after a sign, within the range. -/
def signed? (unsigned? : Raw → Option Nat) (r : Raw) : Option Int :=
  match trimBlanks r with
  | '-' :: rest => (unsigned? rest).bind fun n => if n ≤ greatest + 1 then some (-n) else none
  | '+' :: rest => (unsigned? rest).bind fun n => if n ≤ greatest then some n else none
  | rest => (unsigned? rest).bind fun n => if n ≤ greatest then some n else none

/-- The number that a text in base ten is. -/
def decimal? (r : Raw) : Option Int :=
  signed? Raw.number? r

/-- The number that a text in any of the bases is. -/
def number? (r : Raw) : Option Int :=
  signed? (fun r =>
    if r.head?.any Char.isDigit then
      match cutNumber r with
      | (n, []) => some n
      | _ => none
    else none) r

/-- Numbers that variables were given during an evaluation, the last first. -/
abbrev Changes := List (Raw × Int)

/-- The number that a variable holds. One that is unset or empty holds zero. -/
def lookup (value? : Raw → Option Raw) (changes : Changes) (name : Raw) : Except Fault Int :=
  match changes.find? fun c => c.1 == name with
  | some (_, n) => .ok n
  | none =>
    match value? name with
    | none | some [] => .ok 0
    | some r =>
      match number? r with
      | some n => .ok n
      | none => .error (.notNumber r)

/-- The value of an expression and the changes that it made. -/
def eval (value? : Raw → Option Raw) : Expr → Changes → Except Fault (Int × Changes)
  | .number n, cs => .ok (n, cs)
  | .name r, cs => (lookup value? cs r).map fun n => (n, cs)
  | .unary op e, cs => do
    let (a, cs) ← eval value? e cs
    return (unaryValue op a, cs)
  | .binary op e f, cs => do
    let (a, cs) ← eval value? e cs
    let (b, cs) ← eval value? f cs
    return (← binaryValue op a b, cs)
  | .both e f, cs => do
    let (a, cs) ← eval value? e cs
    if a = 0 then return (0, cs)
    let (b, cs) ← eval value? f cs
    return (ofBool (b ≠ 0), cs)
  | .either e f, cs => do
    let (a, cs) ← eval value? e cs
    if a ≠ 0 then return (1, cs)
    let (b, cs) ← eval value? f cs
    return (ofBool (b ≠ 0), cs)
  | .choice test yes no, cs => do
    let (a, cs) ← eval value? test cs
    if a ≠ 0 then eval value? yes cs else eval value? no cs
  | .assign r none e, cs => do
    let (a, cs) ← eval value? e cs
    return (a, (r, a) :: cs)
  | .assign r (some op) e, cs => do
    let (b, cs) ← eval value? e cs
    let a ← lookup value? cs r
    let n ← binaryValue op a b
    return (n, (r, n) :: cs)

/-- The value of a text and the changes that it makes, the first first. -/
def run (value? : Raw → Option Raw) (r : Raw) : Except Fault (Int × Changes) := do
  let e ← ofText r
  let (n, cs) ← eval value? e []
  return (n, cs.reverse)

end Arithmetic

end InlineLinkage.Shell
