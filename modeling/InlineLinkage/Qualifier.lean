import InlineLinkage.Text.Blank
import InlineLinkage.Text.Quoted

/-!
# Qualifiers

The words that may stand before `int foo()`, one at a time and in rows. A row keeps the order and the
repetitions in which its words were written. It is read from the words of a text and written with
single spaces.
-/
namespace InlineLinkage

open Text

/-- A word written before a declaration. -/
inductive Qualifier where
  | inlineKeyword
  | compilerInline
  | gnuInline
  | alwaysInline
  | staticStorage
  | externStorage
  deriving DecidableEq, Repr

namespace Qualifier

/-- All qualifiers, in the order in which patterns of qualifiers number them. -/
def all : List Qualifier :=
  [.inlineKeyword, .compilerInline, .gnuInline, .alwaysInline, .staticStorage, .externStorage]

theorem mem_all (q : Qualifier) : q ∈ all := by
  cases q <;> simp [all]

theorem nodup_all : all.Nodup := by
  simp [all]

/-- How the word is written in a program. -/
def spelling : Qualifier → String
  | .inlineKeyword => "inline"
  | .compilerInline => "__inline__"
  | .gnuInline => "__attribute__((gnu_inline))"
  | .alwaysInline => "__attribute__((always_inline))"
  | .staticStorage => "static"
  | .externStorage => "extern"

/-- The letter that stands for the word in the summary of a case. -/
def letter : Qualifier → Char
  | .inlineKeyword => 'i'
  | .compilerInline => 'I'
  | .gnuInline => 'g'
  | .alwaysInline => 'a'
  | .staticStorage => 's'
  | .externStorage => 'e'

/-- The name of the word in encoded data. -/
def name : Qualifier → String
  | .inlineKeyword => "inline_keyword"
  | .compilerInline => "compiler_inline_keyword"
  | .gnuInline => "gnu_inline_attribute"
  | .alwaysInline => "always_inline_attribute"
  | .staticStorage => "static"
  | .externStorage => "extern"

/-- One of the two spellings of `inline`. -/
def isInlineSpelling : Qualifier → Bool
  | .inlineKeyword => true
  | .compilerInline => true
  | _ => false

/-- The qualifier with an exact spelling. -/
def ofSpelling? (word : List Char) : Option Qualifier :=
  all.find? fun q => q.spelling.toList == word

/-- The qualifier with a name. -/
def ofName? (name : String) : Option Qualifier :=
  all.find? fun q => q.name == name

theorem ofSpelling?_spelling (q : Qualifier) : ofSpelling? q.spelling.toList = some q := by
  cases q <;> decide

theorem spelling_of_ofSpelling? {word : List Char} {q : Qualifier} (h : ofSpelling? word = some q) :
    q.spelling.toList = word := by
  have := List.find?_some h
  simpa using this

theorem ofName?_name (q : Qualifier) : ofName? q.name = some q := by
  cases q <;> decide

end Qualifier

/-- A word that is no qualifier. -/
structure UnknownQualifier where
  word : String
  deriving DecidableEq, Repr

def UnknownQualifier.message (e : UnknownQualifier) : String :=
  "unrecognized qualifier " ++ quote e.word ++
    " (expected one of inline, __inline__, __attribute__((gnu_inline)), " ++
    "__attribute__((always_inline)), static, extern)"

/-- The qualifier that one word spells. -/
def Qualifier.ofWord (word : List Char) : Except UnknownQualifier Qualifier :=
  match ofSpelling? word with
  | some q => .ok q
  | none => .error ⟨String.ofList word⟩

/-- Qualifiers in written order. -/
abbrev Qualifiers := List Qualifier

namespace Qualifiers

/-- The qualifiers that a row of words spells. The first word that spells none is the error. -/
def ofWords : List (List Char) → Except UnknownQualifier Qualifiers
  | [] => .ok []
  | word :: rest =>
    match Qualifier.ofWord word with
    | .error e => .error e
    | .ok q =>
      match ofWords rest with
      | .error e => .error e
      | .ok qs => .ok (q :: qs)

/-- The qualifiers written in a text. -/
def ofText (s : String) : Except UnknownQualifier Qualifiers :=
  ofWords (words s.toList)

/-- The words separated by single spaces. -/
def chars (qs : Qualifiers) : List Char :=
  unwords (qs.map fun q => q.spelling.toList)

def text (qs : Qualifiers) : String :=
  String.ofList qs.chars

/-- One letter a word. -/
def summary (qs : Qualifiers) : List Char :=
  qs.map Qualifier.letter

def has (qs : Qualifiers) (q : Qualifier) : Bool :=
  qs.contains q

def hasInline (qs : Qualifiers) : Bool :=
  qs.has .inlineKeyword

def hasCompilerInline (qs : Qualifiers) : Bool :=
  qs.has .compilerInline

/-- Some spelling of `inline` is there. -/
def hasAnyInline (qs : Qualifiers) : Bool :=
  qs.any Qualifier.isInlineSpelling

def hasGnuInline (qs : Qualifiers) : Bool :=
  qs.has .gnuInline

def hasAlwaysInline (qs : Qualifiers) : Bool :=
  qs.has .alwaysInline

def isStatic (qs : Qualifiers) : Bool :=
  qs.has .staticStorage

def isExternal (qs : Qualifiers) : Bool :=
  qs.has .externStorage

/-- Both spellings of `inline` are there. -/
def hasBothInlines (qs : Qualifiers) : Bool :=
  qs.hasInline && qs.hasCompilerInline

/-- The word `extern`, once, and no other. -/
def isExternalOnly (qs : Qualifiers) : Bool :=
  qs == [Qualifier.externStorage]

@[simp] theorem has_iff {qs : Qualifiers} {q : Qualifier} : qs.has q = true ↔ q ∈ qs := by
  simp [has]

theorem has_eq_false_iff {qs : Qualifiers} {q : Qualifier} : qs.has q = false ↔ q ∉ qs := by
  rw [← Bool.not_eq_true, has_iff]

theorem hasAnyInline_eq (qs : Qualifiers) :
    qs.hasAnyInline = (qs.hasInline || qs.hasCompilerInline) := by
  rw [Bool.eq_iff_iff]
  simp only [hasAnyInline, hasInline, hasCompilerInline, List.any_eq_true, Bool.or_eq_true, has_iff]
  constructor
  · rintro ⟨q, hq, hi⟩
    cases q <;> simp_all [Qualifier.isInlineSpelling]
  · rintro (h | h)
    · exact ⟨_, h, rfl⟩
    · exact ⟨_, h, rfl⟩

end Qualifiers

end InlineLinkage
