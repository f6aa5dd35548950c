import InlineLinkage.Shell.FileTree
import InlineLinkage.Shell.Wildcard

/-!
# Fields

What becomes of an expanded word: values are cut at separators, and a field with an unquoted wildcard
becomes the names of the files that it fits.
-/
namespace InlineLinkage.Shell

/-- A part of an expanded word. -/
inductive Fragment where
  /-- Text that is not cut. It makes a field even when it is empty. -/
  | text (m : Marked)
  /-- The value of an unquoted substitution, which is cut. -/
  | value (r : Raw)
  /-- The end of a field, if there is one. -/
  | boundary

namespace Fragment

/-- The text of fragments that are not cut. -/
def whole : List Fragment → Marked
  | [] => []
  | .text m :: rest => m ++ whole rest
  | .value r :: rest => Marked.ofRaw false r ++ whole rest
  | .boundary :: rest => (' ', true) :: whole rest

end Fragment

/-- Fields that are being cut. Texts are reversed. -/
structure Cutting where
  fields : List Marked := []
  /-- The field that has begun. -/
  current : Option Marked := none
  /-- The last field was ended by a blank. -/
  afterBlank : Bool := false

namespace Cutting

def isBlank (c : Char) : Bool :=
  c == ' ' || c == '\t' || c == '\n'

/-- Ends the field that has begun. -/
def finish (s : Cutting) : Cutting :=
  match s.current with
  | some m => { s with fields := m.reverse :: s.fields, current := none }
  | none => s

def extend (s : Cutting) (m : Marked) : Cutting :=
  { s with current := some (m.reverse ++ s.current.getD []), afterBlank := false }

/-- One character of a value. A separator that is no blank ends a field even when it is empty, and the
blanks around it belong to it. -/
def character (separators : Raw) (s : Cutting) (c : Char) : Cutting :=
  if !separators.contains c then s.extend [(c, false)]
  else if isBlank c then
    match s.current with
    | some _ => { s.finish with afterBlank := true }
    | none => s
  else if s.current.isNone && s.afterBlank then { s with afterBlank := false }
  else { { s with current := some (s.current.getD []) }.finish with afterBlank := false }

def fragment (separators : Raw) (s : Cutting) : Fragment → Cutting
  | .text m => s.extend m
  | .value r => r.foldl (character separators) s
  | .boundary => { s.finish with afterBlank := false }

/-- The fields of fragments. -/
def fieldsOf (separators : Raw) (fs : List Fragment) : List Marked :=
  (fs.foldl (fragment separators) {}).finish.fields.reverse

end Cutting

namespace Wildcard

/-- The parts of a pattern between slashes. -/
def parts : Marked → List Marked
  | [] => [[]]
  | (c, isQuoted) :: rest =>
    if c = '/' then [] :: parts rest
    else
      match parts rest with
      | [] => [[(c, isQuoted)]]
      | part :: more => ((c, isQuoted) :: part) :: more

/-- The texts that a part of a pattern leads to from a text. Names that start with a point are only
found by patterns that start with one. -/
def expandPart (files : FileTree) (directory : Path) (isLast : Bool) (start : Raw) (part : Marked) :
    List Raw :=
  let ending := if isLast then [] else ['/']
  if isPattern part then
    let items := ofMarked part
    let hidden := items.head? == some (.literal '.')
    let all := ['.'] :: ['.', '.'] :: files.names (Path.resolve directory start)
    let names := all.filter fun n => (hidden || n.head? != some '.') && fits items n
    names.map fun n => start ++ n ++ ending
  else [start ++ part.toRaw ++ ending]

def expandParts (files : FileTree) (directory : Path) : List Raw → List Marked → List Raw
  | starts, [] => starts
  | starts, part :: rest =>
    expandParts files directory
      (starts.flatMap fun s => expandPart files directory rest.isEmpty s part) rest

/-- The names of the files that a pattern fits, or the pattern itself when there are none. -/
def files (t : FileTree) (directory : Path) (m : Marked) : List Raw :=
  if isPattern m then
    let found := (expandParts t directory [[]] (parts m)).filter fun r =>
      (t.node? (Path.resolve directory r)).isSome
    if found.isEmpty then [m.toRaw] else Raw.sort found
  else [m.toRaw]

end Wildcard

/-- Cuts a line for `read` among so many names. The last takes all that is left. -/
def Raw.cutLine (separators : Raw) : Nat → Marked → List Raw
  | 0, _ => []
  | count + 1, m =>
    let isSeparator (c : Char × Bool) : Bool := !c.2 && separators.contains c.1
    let isSpace (c : Char × Bool) : Bool := isSeparator c && Cutting.isBlank c.1
    let m := m.dropWhile isSpace
    match count with
    | 0 =>
      let last := (m.reverse.dropWhile isSpace).reverse
      [Marked.toRaw last]
    | count =>
      let field := m.takeWhile fun c => !isSeparator c
      let rest := (m.dropWhile fun c => !isSeparator c).dropWhile isSpace
      let rest :=
        match rest with
        | c :: more => if isSeparator c then more else rest
        | [] => []
      Marked.toRaw field :: Raw.cutLine separators count rest

end InlineLinkage.Shell
