import InlineLinkage.Shell.Arithmetic

/-!
# Formats

The texts of `echo` and `printf`: backslash escapes, and formats whose conversions take the arguments
in turn. A format is used again while arguments are left.
-/
namespace InlineLinkage.Shell.Format

open Text Arithmetic

/-- The control character that a letter names after a backslash. -/
def control? : Char → Option Char
  | 'a' => some '\x07'
  | 'b' => some '\x08'
  | 'f' => some '\x0c'
  | 'n' => some '\n'
  | 'r' => some '\x0d'
  | 't' => some '\t'
  | 'v' => some '\x0b'
  | '\\' => some '\\'
  | _ => none

/-- Up to so many digits in base eight, and what follows them. -/
def cutOctal : Nat → Nat → Raw → Nat × Raw
  | 0, n, r => (n, r)
  | _ + 1, n, [] => (n, [])
  | digits + 1, n, c :: rest =>
    if isOctal c then cutOctal digits (n * 8 + digitValue c) rest else (n, c :: rest)

/-- What the characters after a backslash stand for in a format, and what follows them. -/
def cutEscape : Raw → Char × Raw
  | [] => ('\\', [])
  | c :: rest =>
    match control? c with
    | some d => (d, rest)
    | none =>
      if isOctal c then
        let (n, rest) := cutOctal 3 0 (c :: rest)
        (Raw.ofNumber n, rest)
      else ('\\', c :: rest)

/-- Some text, and whether output ends with it. -/
structure Output where
  text : Raw
  ended : Bool := false

namespace Output

def cons (c : Char) (o : Output) : Output :=
  { o with text := c :: o.text }

/-- One output after the other, unless the first was the end. -/
def append (o p : Output) : Output :=
  if o.ended then o else ⟨o.text ++ p.text, p.ended⟩

end Output

/-- The text of an argument whose escapes are meant. A `\c` ends the output. -/
def unescape : Nat → Raw → Output
  | 0, _ => ⟨[], false⟩
  | _ + 1, [] => ⟨[], false⟩
  | fuel + 1, '\\' :: rest =>
    match rest with
    | 'c' :: _ => ⟨[], true⟩
    | '0' :: rest =>
      let (n, rest) := cutOctal 3 0 rest
      (unescape fuel rest).cons (Raw.ofNumber n)
    | rest =>
      let (c, rest) := cutEscape rest
      (unescape fuel rest).cons c
  | fuel + 1, c :: rest => (unescape fuel rest).cons c

def unescaped (r : Raw) : Output :=
  unescape (r.length + 1) r

/-- The output of `echo`. -/
def echo (arguments : List Raw) : Raw :=
  match arguments with
  | ['-', 'n'] :: rest => (unescaped (Raw.join [' '] rest)).text
  | arguments =>
    let o := unescaped (Raw.join [' '] arguments)
    if o.ended then o.text else o.text ++ ['\n']

/-- The flags, the width and the precision of a conversion. -/
structure Layout where
  left : Bool := false
  sign : Bool := false
  space : Bool := false
  alternate : Bool := false
  zero : Bool := false
  width : Nat := 0
  precision : Option Nat := none

namespace Layout

def addFlag (l : Layout) : Char → Option Layout
  | '-' => some { l with left := true }
  | '+' => some { l with sign := true }
  | ' ' => some { l with space := true }
  | '#' => some { l with alternate := true }
  | '0' => some { l with zero := true }
  | _ => none

/-- The flags at the start of a text, and what follows them. -/
def cutFlags : Layout → Raw → Layout × Raw
  | l, [] => (l, [])
  | l, c :: rest =>
    match l.addFlag c with
    | some l => cutFlags l rest
    | none => (l, c :: rest)

/-- Fills a text up to the width. -/
def pad (l : Layout) (fill : Char) (r : Raw) : Raw :=
  let filling := List.replicate (l.width - r.length) fill
  if l.left then r ++ filling else filling ++ r

def text (l : Layout) (r : Raw) : Raw :=
  l.pad ' ' (match l.precision with
    | some n => r.take n
    | none => r)

/-- A number by what stands before its digits, and its digits. -/
def number (l : Layout) (before digits : Raw) : Raw :=
  let digits :=
    match l.precision with
    | some n => List.replicate (n - digits.length) '0' ++ digits
    | none => digits
  if l.zero && !l.left && l.precision.isNone then
    before ++ List.replicate (l.width - before.length - digits.length) '0' ++ digits
  else l.pad ' ' (before ++ digits)

def signed (l : Layout) (n : Int) : Raw :=
  let before := if n < 0 then ['-'] else if l.sign then ['+'] else if l.space then [' '] else []
  l.number before (natChars n.natAbs)

def unsigned (l : Layout) (base : Nat) (mark : Raw) (upper : Bool) (n : Int) : Raw :=
  let digits := Nat.toDigits base (bits n)
  let digits := if upper then digits.map Char.toUpper else digits
  l.number (if l.alternate then mark else []) digits

end Layout

/-- What can be wrong with the use of a format. -/
inductive Complaint where
  | notNumeric (argument : Raw)
  | trailing (argument : Raw)
  | unknownConversion (c : Raw)
  deriving DecidableEq

def Complaint.message : Complaint → Raw
  | .notNumeric a => a ++ ": expected numeric value".toList
  | .trailing a => a ++ ": not completely converted".toList
  | .unknownConversion c => '%' :: c ++ ": invalid directive".toList

def Complaint.status : Complaint → Nat
  | .unknownConversion _ => 2
  | _ => 1

/-- A use of a format: the arguments that are left and what came of those that were used. -/
structure Use where
  arguments : List Raw
  output : Raw := []
  complaints : List Complaint := []
  ended : Bool := false

namespace Use

def write (u : Use) (r : Raw) : Use :=
  { u with output := u.output ++ r }

def complain (u : Use) (c : Complaint) : Use :=
  { u with complaints := u.complaints ++ [c] }

/-- The next argument. A missing one is empty. -/
def take (u : Use) : Raw × Use :=
  match u.arguments with
  | [] => ([], u)
  | a :: rest => (a, { u with arguments := rest })

/-- The number at the start of a text, and what follows it. -/
def cutInteger (r : Raw) : Option (Int × Raw) :=
  let r := r.dropWhile (· == ' ')
  let (negative, digits) :=
    match r with
    | '-' :: rest => (true, rest)
    | '+' :: rest => (false, rest)
    | rest => (false, rest)
  if digits.head?.any Char.isDigit then
    let (n, rest) := cutNumber digits
    some (if negative then -n else n, rest)
  else none

/-- The next argument as a number. After a quote, the number of a character. -/
def takeNumber (u : Use) : Int × Use :=
  match u.take with
  | ([], u) => (0, u)
  | ('\'' :: c :: _, u) => (c.toNat, u)
  | ('"' :: c :: _, u) => (c.toNat, u)
  | (a, u) =>
    match cutInteger a with
    | none => (0, u.complain (.notNumeric a))
    | some (n, []) => (n, u)
    | some (n, _) => (n, u.complain (.trailing a))

/-- A width or precision, which may be an argument. -/
def takeSize (u : Use) (r : Raw) : Option Int × Use × Raw :=
  match r with
  | '*' :: rest =>
    let (n, u) := u.takeNumber
    (some n, u, rest)
  | r =>
    let digits := r.takeWhile Char.isDigit
    (if digits = [] then none else some (ofDigitChars digits), u, r.dropWhile Char.isDigit)

/-- The layout that follows a percent sign, and what follows it. -/
def takeLayout (u : Use) (r : Raw) : Layout × Use × Raw :=
  let (l, r) := Layout.cutFlags {} r
  let (width, u, r) := u.takeSize r
  let w := width.getD 0
  let l := { l with left := l.left || w < 0, width := w.natAbs }
  match r with
  | '.' :: r =>
    let (precision, u, r) := u.takeSize r
    ({ l with precision := some (precision.getD 0).toNat }, u, r)
  | r => (l, u, r)

/-- One conversion. -/
def convert (u : Use) (l : Layout) (c : Char) : Use :=
  match c with
  | 's' =>
    let (a, u) := u.take
    u.write (l.text a)
  | 'b' =>
    let (a, u) := u.take
    let o := unescaped a
    { u.write (l.text o.text) with ended := o.ended }
  | 'c' =>
    let (a, u) := u.take
    u.write (l.pad ' ' (a.take 1))
  | 'd' | 'i' =>
    let (n, u) := u.takeNumber
    u.write (l.signed n)
  | 'u' =>
    let (n, u) := u.takeNumber
    u.write (l.unsigned 10 [] false n)
  | 'o' =>
    let (n, u) := u.takeNumber
    u.write (l.unsigned 8 ['0'] false n)
  | 'x' =>
    let (n, u) := u.takeNumber
    u.write (l.unsigned 16 ['0', 'x'] false n)
  | 'X' =>
    let (n, u) := u.takeNumber
    u.write (l.unsigned 16 ['0', 'X'] true n)
  | c => { u.complain (.unknownConversion [c]) with ended := true }

/-- Uses a format once. -/
def once : Nat → Use → Raw → Use
  | 0, u, _ => u
  | _ + 1, u, [] => u
  | fuel + 1, u, '%' :: '%' :: rest => once fuel (u.write ['%']) rest
  | fuel + 1, u, '%' :: rest =>
    let (l, u, rest) := u.takeLayout rest
    match rest with
    | [] => { u.complain (.unknownConversion []) with ended := true }
    | c :: rest =>
      let u := u.convert l c
      if u.ended then u else once fuel u rest
  | fuel + 1, u, '\\' :: rest =>
    let (c, rest) := cutEscape rest
    once fuel (u.write [c]) rest
  | fuel + 1, u, c :: rest => once fuel (u.write [c]) rest

/-- Uses a format until no argument is left or it takes none. -/
def repeatedly (format : Raw) : Nat → Use → Use
  | 0, u => u
  | fuel + 1, u =>
    let next := once (format.length + 1) u format
    if next.ended || next.arguments.isEmpty || next.arguments.length == u.arguments.length then next
    else repeatedly format fuel next

end Use

/-- The output of `printf` and what was wrong. -/
def printf (format : Raw) (arguments : List Raw) : Raw × List Complaint :=
  let u := Use.repeatedly format (arguments.length + 1) { arguments := arguments }
  (u.output, u.complaints)

end InlineLinkage.Shell.Format
