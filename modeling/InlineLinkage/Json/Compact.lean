import InlineLinkage.Json.Value

/-!
# Compact JSON

The text of a value without white space: members in their order, the short escapes where there are
some, and no character escaped that need not be.
-/
namespace InlineLinkage.Json

open InlineLinkage.Text

/-- The last two digits of a number in base sixteen. -/
def twoHexChars (n : Nat) : List Char :=
  [Nat.digitChar (n / 16 % 16), Nat.digitChar (n % 16)]

def Piece.chars : Piece → List Char
  | .surrogate n => ['\\', 'u'] ++ twoHexChars (n / 256) ++ twoHexChars n
  | .char c =>
    if c = '"' then ['\\', '"']
    else if c = '\\' then ['\\', '\\']
    else if c = '\n' then ['\\', 'n']
    else if c = '\r' then ['\\', 'r']
    else if c = '\t' then ['\\', 't']
    else if c = '\x08' then ['\\', 'b']
    else if c = '\x0c' then ['\\', 'f']
    else if c.toNat < 0x20 then ['\\', 'u', '0', '0'] ++ twoHexChars c.toNat
    else [c]

/-- A string between quotes. -/
def stringChars (s : List Piece) : List Char :=
  '"' :: s.flatMap Piece.chars ++ ['"']

def Number.chars (n : Number) : List Char :=
  (if n.negative then ['-'] else []) ++ n.whole.map Nat.digitChar ++
    (if n.fraction = [] then [] else '.' :: n.fraction.map Nat.digitChar) ++
    match n.exponent with
    | none => []
    | some (negative, digits) =>
      'e' :: (if negative then ['-'] else []) ++ digits.map Nat.digitChar

def Token.chars : Token → List Char
  | .null => ['n', 'u', 'l', 'l']
  | .bool true => ['t', 'r', 'u', 'e']
  | .bool false => ['f', 'a', 'l', 's', 'e']
  | .number n => n.chars
  | .string s => stringChars s
  | .openArray => ['[']
  | .closeArray => [']']
  | .openObject => ['{']
  | .closeObject => ['}']
  | .comma => [',']
  | .colon => [':']

mutual

/-- The tokens of a value. -/
def Value.tokens : Value → List Token
  | .null => [.null]
  | .bool b => [.bool b]
  | .number n => [.number n]
  | .string s => [.string s]
  | .array items => .openArray :: (itemTokens items ++ [.closeArray])
  | .object members => .openObject :: (memberTokens members ++ [.closeObject])

/-- The tokens of the items of an array. -/
def itemTokens : List Value → List Token
  | [] => []
  | v :: rest => v.tokens ++ laterItemTokens rest

def laterItemTokens : List Value → List Token
  | [] => []
  | v :: rest => .comma :: (v.tokens ++ laterItemTokens rest)

/-- The tokens of the members of an object. -/
def memberTokens : List (List Piece × Value) → List Token
  | [] => []
  | (key, v) :: rest => .string key :: .colon :: (v.tokens ++ laterMemberTokens rest)

def laterMemberTokens : List (List Piece × Value) → List Token
  | [] => []
  | (key, v) :: rest =>
    .comma :: .string key :: .colon :: (v.tokens ++ laterMemberTokens rest)

end

/-- The compact text of a value. -/
def Value.compactChars (v : Value) : List Char :=
  v.tokens.flatMap Token.chars

def Value.compact (v : Value) : String :=
  String.ofList v.compactChars

end InlineLinkage.Json
