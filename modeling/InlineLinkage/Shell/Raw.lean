import InlineLinkage.Text.Number
import InlineLinkage.Text.Utf8

/-!
# Raw text

Scripts, file contents and the output of programs are rows of bytes. Here each byte is written as the
character with its number, so that text in ASCII reads as itself.
-/
namespace InlineLinkage.Shell

open Text

/-- A row of bytes. -/
abbrev Raw := List Char

namespace Raw

def ofByte (b : UInt8) : Char :=
  Char.ofNat b.toNat

/-- The encoding of a text. -/
def ofString (s : String) : Raw :=
  (encodeChars s.toList).map ofByte

def toBytes (r : Raw) : List UInt8 :=
  r.map fun c => c.toNat.toUInt8

/-- The text that the bytes encode, with a replacement for each ill-formed part. -/
def toText (r : Raw) : String :=
  String.ofList (decodeLossy (toBytes r))

/-- A small byte, for an escape that gives its number. -/
def ofNumber (n : Nat) : Char :=
  Char.ofNat (n % 256)

/-- A letter or an underscore. -/
def startsName (c : Char) : Bool :=
  c.isAlpha || c == '_'

def continuesName (c : Char) : Bool :=
  startsName c || c.isDigit

/-- A name of a variable or function. -/
def isName : Raw → Bool
  | [] => false
  | c :: rest => startsName c && rest.all continuesName

def isNumber (r : Raw) : Bool :=
  !r.isEmpty && r.all Char.isDigit

/-- The number that a row of digits denotes. -/
def number? (r : Raw) : Option Nat :=
  if isNumber r then some (ofDigitChars r) else none

/-- Parts joined by a separator. -/
def join (separator : Raw) : List Raw → Raw
  | [] => []
  | [r] => r
  | r :: rest => r ++ separator ++ join separator rest

/-- The parts between separators. There is always at least one. -/
def split (separator : Char) : Raw → List Raw
  | [] => [[]]
  | c :: rest =>
    if c = separator then [] :: split separator rest
    else
      match split separator rest with
      | [] => [[c]]
      | part :: parts => (c :: part) :: parts

/-- Without the line feeds at the end. -/
def dropFinalNewlines (r : Raw) : Raw :=
  (r.reverse.dropWhile (· == '\n')).reverse

/-- The order by bytes. -/
def le : Raw → Raw → Bool
  | [], _ => true
  | _ :: _, [] => false
  | a :: r, b :: s => a < b || (a == b && le r s)

def sort (rs : List Raw) : List Raw :=
  rs.mergeSort le

end Raw

end InlineLinkage.Shell
