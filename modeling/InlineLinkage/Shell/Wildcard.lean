import InlineLinkage.Shell.Raw

/-!
# Wildcards

Patterns of file names and of `case`: a star stands for any text, a question mark for any byte, and
brackets for the bytes they list. What was quoted stands for itself.
-/
namespace InlineLinkage.Shell

/-- Text in which each byte is known to be quoted or not. -/
abbrev Marked := List (Char × Bool)

namespace Marked

def ofRaw (isQuoted : Bool) (r : Raw) : Marked :=
  r.map fun c => (c, isQuoted)

def toRaw (m : Marked) : Raw :=
  m.map Prod.fst

end Marked

/-- A part of a list in brackets. -/
inductive ByteClass where
  | range (low high : Char)
  | named (name : String)
  deriving DecidableEq

namespace ByteClass

def has (c : Char) : ByteClass → Bool
  | .range low high => low ≤ c && c ≤ high
  | .named "alpha" => c.isAlpha
  | .named "digit" => c.isDigit
  | .named "alnum" => c.isAlphanum
  | .named "upper" => c.isUpper
  | .named "lower" => c.isLower
  | .named "space" => c == ' ' || ('\t' ≤ c && c ≤ '\r')
  | .named "blank" => c == ' ' || c == '\t'
  | .named "punct" => '!' ≤ c && c ≤ '~' && !c.isAlphanum
  | .named "xdigit" => c.isDigit || ('a' ≤ c && c ≤ 'f') || ('A' ≤ c && c ≤ 'F')
  | .named "print" => ' ' ≤ c && c ≤ '~'
  | .named "graph" => '!' ≤ c && c ≤ '~'
  | .named "cntrl" => c < ' ' || c == '\x7f'
  | .named _ => false

end ByteClass

inductive WildcardItem where
  | literal (c : Char)
  | anyByte
  | anyText
  | oneOf (negated : Bool) (classes : List ByteClass)
  deriving DecidableEq

namespace Wildcard

/-- The name of a class and what follows it. -/
def cutClassName : Marked → Option (Raw × Marked)
  | (':', _) :: (']', _) :: rest => some ([], rest)
  | (c, _) :: rest => (cutClassName rest).map fun (name, rest) => (c :: name, rest)
  | [] => none

/-- The classes of a list in brackets, up to its end. The first bracket of a list does not end it. -/
def cutClasses : Nat → Bool → Marked → Option (List ByteClass × Marked)
  | 0, _, _ => none
  | fuel + 1, isFirst, m =>
    match m with
    | [] => none
    | (']', false) :: rest =>
      if isFirst then classThen fuel ']' rest else some ([], rest)
    | ('[', false) :: (':', false) :: rest =>
      match cutClassName rest with
      | some (name, rest) =>
        (cutClasses fuel false rest).map fun (classes, rest) =>
          (.named (String.ofList name) :: classes, rest)
      | none => classThen fuel '[' ((':', false) :: rest)
    | (c, _) :: rest => classThen fuel c rest
where
  /-- A byte, or the range that it starts. -/
  classThen (fuel : Nat) (c : Char) (rest : Marked) : Option (List ByteClass × Marked) :=
    match rest with
    | ('-', false) :: (d, isQuoted) :: more =>
      if d = ']' ∧ ¬ isQuoted then
        (cutClasses fuel false rest).map fun (classes, rest) => (.range c c :: classes, rest)
      else (cutClasses fuel false more).map fun (classes, rest) => (.range c d :: classes, rest)
    | rest => (cutClasses fuel false rest).map fun (classes, rest) => (.range c c :: classes, rest)

/-- The list in brackets that starts here. -/
def cutBrackets : Marked → Option (WildcardItem × Marked)
  | ('!', false) :: rest =>
    (cutClasses (rest.length + 1) true rest).map fun (cs, rest) => (.oneOf true cs, rest)
  | ('^', false) :: rest =>
    (cutClasses (rest.length + 1) true rest).map fun (cs, rest) => (.oneOf true cs, rest)
  | rest => (cutClasses (rest.length + 1) true rest).map fun (cs, rest) => (.oneOf false cs, rest)

def itemsFrom : Nat → Marked → List WildcardItem
  | 0, _ => []
  | _ + 1, [] => []
  | fuel + 1, ('*', false) :: rest => .anyText :: itemsFrom fuel rest
  | fuel + 1, ('?', false) :: rest => .anyByte :: itemsFrom fuel rest
  | fuel + 1, ('[', false) :: rest =>
    match cutBrackets rest with
    | some (item, rest) => item :: itemsFrom fuel rest
    | none => .literal '[' :: itemsFrom fuel rest
  | fuel + 1, (c, _) :: rest => .literal c :: itemsFrom fuel rest

/-- The pattern that a text spells. -/
def ofMarked (m : Marked) : List WildcardItem :=
  itemsFrom (m.length + 1) m

/-- Whether a byte fits an item that stands for one byte. -/
def fitsByte (c : Char) : WildcardItem → Bool
  | .literal d => c == d
  | .anyByte => true
  | .anyText => false
  | .oneOf negated classes => classes.any (ByteClass.has c) != negated

/-- Whether a pattern fits a whole text. -/
def fits : List WildcardItem → Raw → Bool
  | [], r => r.isEmpty
  | .anyText :: items, [] => fits items []
  | .anyText :: items, c :: r => fits items (c :: r) || fits (.anyText :: items) r
  | _ :: _, [] => false
  | item :: items, c :: r => fitsByte c item && fits items r
termination_by items r => (items.length, r.length)

/-- Whether a text has a character that can stand for others. -/
def isPattern (m : Marked) : Bool :=
  m.any fun (c, isQuoted) => !isQuoted && (c == '*' || c == '?' || c == '[')

/-- A text without the shortest or longest start that fits. -/
def trimStart (longest : Bool) (items : List WildcardItem) (r : Raw) : Raw :=
  let lengths := List.range (r.length + 1)
  match (if longest then lengths.reverse else lengths).find? fun n => fits items (r.take n) with
  | some n => r.drop n
  | none => r

/-- A text without the shortest or longest end that fits. -/
def trimEnd (longest : Bool) (items : List WildcardItem) (r : Raw) : Raw :=
  let lengths := List.range (r.length + 1)
  match (if longest then lengths else lengths.reverse).find? fun n => fits items (r.drop n) with
  | some n => r.take n
  | none => r

end Wildcard

end InlineLinkage.Shell
