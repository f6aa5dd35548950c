import InlineLinkage.Text.Unprintable

/-!
# Quoted text

The form in which messages show a text: double quotes around it, the usual short escapes for tab,
carriage return, line feed, the zero character, quote and backslash, and a number in braces for every
other character that cannot be shown by itself. A quoted text is always one line.
-/
namespace InlineLinkage.Text

/-- The digits of a number in base sixteen, without leading zeros. -/
def hexDigits (n : Nat) : List Char :=
  Nat.toDigits 16 n

/-- One character as written between quotes. -/
def quoteChar (c : Char) : List Char :=
  if c = '\t' then ['\\', 't']
  else if c = '\r' then ['\\', 'r']
  else if c = '\n' then ['\\', 'n']
  else if c = '\x00' then ['\\', '0']
  else if c = '"' then ['\\', '"']
  else if c = '\\' then ['\\', '\\']
  else if isUnprintable c then ['\\', 'u', '{'] ++ hexDigits c.toNat ++ ['}']
  else [c]

/-- A text between quotes. -/
def quoteChars (s : List Char) : List Char :=
  '"' :: s.flatMap quoteChar ++ ['"']

/-- A text between quotes, on one line. -/
def quote (s : String) : String :=
  String.ofList (quoteChars s.toList)

end InlineLinkage.Text
