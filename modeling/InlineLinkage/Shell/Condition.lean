import InlineLinkage.Shell.Arithmetic
import InlineLinkage.Shell.FileTree

/-!
# Conditions

The expressions of `test`: comparisons of texts and numbers, questions about files, and their
combinations. Whether a word is an operator depends on the words after it, so that a text that looks
like an operator can still be compared. The readers go from word to word; each is given the words from
the one that it looks at, and gives back those from the last one that it used.
-/
namespace InlineLinkage.Shell.Condition

/-- What is wrong with a condition. -/
inductive Fault where
  | notNumber (argument : Raw)
  | unexpectedOperator (argument : Raw)
  | missingArgument (operator : Raw)
  | openParenthesis
  deriving DecidableEq

def Fault.message : Fault → Raw
  | .notNumber a => "Illegal number: ".toList ++ a
  | .unexpectedOperator a =>
    if a.isEmpty then "unexpected operator".toList else a ++ ": unexpected operator".toList
  | .missingArgument o => o ++ ": argument expected".toList
  | .openParenthesis => "closing paren expected".toList

/-- What a question about a file finds out. -/
def fileQuestion (c : Char) (n : Node) : Bool :=
  match c with
  | 'd' => n.isDirectory
  | 'f' => n.isFile
  | 'x' => n.isExecutable
  | 's' => n.isDirectory || !n.content.isEmpty
  | 'c' => n == .null
  | 'e' | 'r' | 'w' | 'O' | 'G' => true
  | _ => false

def unaryOperators : List Char :=
  ['b', 'c', 'd', 'e', 'f', 'g', 'h', 'k', 'L', 'n', 'p', 'r', 's', 'S', 't', 'u', 'w', 'x', 'z', 'O',
    'G']

def binaryOperators : List String :=
  ["=", "!=", "<", ">", "-eq", "-ne", "-lt", "-le", "-gt", "-ge", "-nt", "-ot", "-ef"]

def unaryValue (node? : Raw → Option Node) (c : Char) (a : Raw) : Bool :=
  if c = 'n' then !a.isEmpty
  else if c = 'z' then a.isEmpty
  else !a.isEmpty && (node? a).any (fileQuestion c)

def number (r : Raw) : Except Fault Int :=
  match Arithmetic.decimal? r with
  | some n => .ok n
  | none => .error (.notNumber r)

def binaryValue (op : String) (a b : Raw) : Except Fault Bool :=
  match op with
  | "=" => .ok (a == b)
  | "!=" => .ok (a != b)
  | "<" => .ok (!Raw.le b a)
  | ">" => .ok (!Raw.le a b)
  | "-nt" | "-ot" => .ok false
  | "-ef" => .ok (a == b)
  | op => do
    let m ← number a
    let n ← number b
    match op with
    | "-eq" => return m == n
    | "-ne" => return m != n
    | "-lt" => return m < n
    | "-le" => return m ≤ n
    | "-gt" => return m > n
    | _ => return m ≥ n

/-- What a word is in a condition. -/
inductive Role where
  | finish
  | operand
  | unary (c : Char)
  | binary (op : String)
  | negation
  | conjunction
  | disjunction
  | opening
  | closing
  deriving DecidableEq

/-- The operator that a word spells. -/
def operator? (r : Raw) : Option Role :=
  match r with
  | ['!'] => some .negation
  | ['('] => some .opening
  | [')'] => some .closing
  | ['-', 'a'] => some .conjunction
  | ['-', 'o'] => some .disjunction
  | r =>
    let s := String.ofList r
    if binaryOperators.contains s then some (.binary s)
    else
      match r with
      | ['-', c] => if unaryOperators.contains c then some (.unary c) else none
      | _ => none

def isBinary (r : Raw) : Bool :=
  match operator? r with
  | some (.binary _) => true
  | _ => false

/-- Whether a question before these words is a text: it has no operand, or it is compared itself. -/
def makesOperand : List Raw → Bool
  | [] => true
  | [_] => false
  | s :: _ :: _ => isBinary s

/-- The role of the first word. -/
def role : List Raw → Role
  | [] => .finish
  | s :: rest =>
    match operator? s with
    | some (.unary c) => if makesOperand rest then .operand else .unary c
    | some .opening => if rest.isEmpty then .operand else .opening
    | some r => r
    | none => .operand

abbrev Read := Except Fault (Bool × List Raw)

mutual

/-- Conditions joined by `-o`. -/
def anyOf (node? : Raw → Option Node) : Nat → Role → List Raw → Read
  | 0, _, ws => .ok (false, ws)
  | fuel + 1, r, ws => do
    let (b, ws) ← allOf node? fuel r ws
    if role (ws.drop 1) = .disjunction then
      let ws := ws.drop 2
      let (c, ws) ← anyOf node? fuel (role ws) ws
      return (b || c, ws)
    else return (b, ws)

/-- Conditions joined by `-a`. -/
def allOf (node? : Raw → Option Node) : Nat → Role → List Raw → Read
  | 0, _, ws => .ok (false, ws)
  | fuel + 1, r, ws => do
    let (b, ws) ← negated node? fuel r ws
    if role (ws.drop 1) = .conjunction then
      let ws := ws.drop 2
      let (c, ws) ← allOf node? fuel (role ws) ws
      return (b && c, ws)
    else return (b, ws)

/-- A condition with its exclamation marks. -/
def negated (node? : Raw → Option Node) : Nat → Role → List Raw → Read
  | 0, _, ws => .ok (false, ws)
  | fuel + 1, r, ws => do
    if r = .negation then
      let next := role (ws.drop 1)
      let (b, ws) ← negated node? fuel next (if next = .finish then ws else ws.drop 1)
      return (!b, ws)
    else single node? fuel r ws

/-- A question, a comparison, a text, or a condition in parentheses. -/
def single (node? : Raw → Option Node) : Nat → Role → List Raw → Read
  | 0, _, ws => .ok (false, ws)
  | fuel + 1, r, ws => do
    match r, ws with
    | .finish, ws => return (false, ws)
    | .opening, ws =>
      let next := role (ws.drop 1)
      if next = .closing then return (false, ws.drop 1)
      let (b, ws) ← anyOf node? fuel next (ws.drop 1)
      if role (ws.drop 1) = .closing then return (b, ws.drop 1) else .error .openParenthesis
    | .unary c, a :: rest =>
      match rest with
      | b :: _ => return (unaryValue node? c b, rest)
      | [] => .error (.missingArgument a)
    | _, a :: rest =>
      match role rest, rest with
      | .binary op, o :: more =>
        match more with
        | b :: _ => return (← binaryValue op a b, more)
        | [] => .error (.missingArgument o)
      | _, _ => return (!a.isEmpty, ws)
    | _, [] => return (false, [])

end

/-- A condition that takes all its words. -/
def whole (node? : Raw → Option Node) (r : Role) (ws : List Raw) : Except Fault Bool := do
  let (b, last) ← anyOf node? (8 * ws.length + 8) r ws
  match last with
  | a :: _ :: _ => .error (.unexpectedOperator a)
  | _ => return b

/-- Whether a condition holds. Three words with a comparison in the middle are that comparison. Of three
or four words, parentheses around them and an exclamation mark before them are taken off first. -/
def holds (node? : Raw → Option Node) : List Raw → Except Fault Bool
  | [] => .ok false
  | ws =>
    let inner := ws.dropLast.drop 1
    let grouped := ws.head? == some ['('] && ws.getLast? == some [')']
    let short := ws.length == 3 || ws.length == 4
    if ws.length == 3 && (ws[1]?).any isBinary then whole node? .operand ws
    else if short && grouped then whole node? (role inner) inner
    else
      match ws with
      | ['!'] :: rest =>
        if short then (holds node? rest).map fun b => !b else whole node? (role ws) ws
      | ws => whole node? (role ws) ws

end InlineLinkage.Shell.Condition
