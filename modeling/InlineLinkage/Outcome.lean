/-!
# Outcomes

What the toolchain does with a case: the program that results or the diagnostic that stops the build,
and the warnings on the way. Warnings are a set, always listed in one order.
-/
namespace InlineLinkage

/-- Which bodies the two calls of a working program reach. -/
inductive SuccessMode where
  /-- Each file calls its own body, and the program prints `1` and `2`. -/
  | useInlineDefinition
  /-- The linker keeps the body of the first file, and the program prints `1` twice. -/
  | linkOnceEither
  deriving DecidableEq, Repr

/-- How a late `static` is reported. -/
inductive StaticStyle where
  | plain
  | externQualified
  /-- The plain words, and a warning about an inline function without a body. -/
  | neverDefined
  deriving DecidableEq, Repr

/-- How a `gnu_inline` on one side only is reported. -/
inductive GnuInlineStyle where
  | present
  | redeclaredWith
  | redeclaredWithout
  deriving DecidableEq, Repr

inductive Diagnostic where
  | inlineNotSupported
  | multipleStorageClasses
  | conflictingSpecifiers
  | duplicateInline
  | staticInconsistent (style : StaticStyle)
  | gnuInlineInconsistent (style : GnuInlineStyle)
  | multipleDefinition
  | undefinedReference
  deriving DecidableEq, Repr

inductive Verdict where
  | success (mode : SuccessMode)
  | diagnostic (d : Diagnostic)
  deriving DecidableEq, Repr

inductive Warning where
  | gnuInlineIgnored
  | alwaysInlineIgnored
  | inlineNeverDefined
  deriving DecidableEq, Repr

/-- A set of warnings. -/
structure Warnings where
  gnuInlineIgnored : Bool := false
  alwaysInlineIgnored : Bool := false
  inlineNeverDefined : Bool := false
  deriving DecidableEq, Repr

structure Outcome where
  verdict : Verdict
  warnings : Warnings
  deriving DecidableEq, Repr

namespace SuccessMode

def all : List SuccessMode :=
  [.useInlineDefinition, .linkOnceEither]

theorem mem_all (m : SuccessMode) : m ∈ all := by
  cases m <;> simp [all]

def name : SuccessMode → String
  | .useInlineDefinition => "use_inline_definition"
  | .linkOnceEither => "link_once_either"

end SuccessMode

namespace StaticStyle

def all : List StaticStyle :=
  [.plain, .externQualified, .neverDefined]

theorem mem_all (s : StaticStyle) : s ∈ all := by
  cases s <;> simp [all]

def name : StaticStyle → String
  | .plain => "plain"
  | .externQualified => "extern_qualified"
  | .neverDefined => "never_defined"

def label : StaticStyle → String
  | .plain => "Plain"
  | .externQualified => "ExternQualified"
  | .neverDefined => "NeverDefined"

end StaticStyle

namespace GnuInlineStyle

def all : List GnuInlineStyle :=
  [.present, .redeclaredWith, .redeclaredWithout]

theorem mem_all (s : GnuInlineStyle) : s ∈ all := by
  cases s <;> simp [all]

def name : GnuInlineStyle → String
  | .present => "present"
  | .redeclaredWith => "redeclared_with"
  | .redeclaredWithout => "redeclared_without"

def label : GnuInlineStyle → String
  | .present => "Present"
  | .redeclaredWith => "RedeclaredWith"
  | .redeclaredWithout => "RedeclaredWithout"

end GnuInlineStyle

namespace Diagnostic

/-- The diagnostics without a style. -/
def plain : List Diagnostic :=
  [.inlineNotSupported, .multipleStorageClasses, .conflictingSpecifiers, .duplicateInline,
    .multipleDefinition, .undefinedReference]

/-- The name, without the style. -/
def name : Diagnostic → String
  | .inlineNotSupported => "inline_not_supported"
  | .multipleStorageClasses => "multiple_storage_classes"
  | .conflictingSpecifiers => "conflicting_specifiers"
  | .duplicateInline => "duplicate_inline"
  | .staticInconsistent _ => "static_inconsistent"
  | .gnuInlineInconsistent _ => "gnu_inline_inconsistent"
  | .multipleDefinition => "multiple_definition"
  | .undefinedReference => "undefined_reference"

/-- The diagnostic is found while linking, after both files were compiled. -/
def isAtLink : Diagnostic → Bool
  | .multipleDefinition => true
  | .undefinedReference => true
  | _ => false

end Diagnostic

namespace Warning

/-- All warnings, in the order in which they are listed. -/
def all : List Warning :=
  [.gnuInlineIgnored, .alwaysInlineIgnored, .inlineNeverDefined]

theorem mem_all (w : Warning) : w ∈ all := by
  cases w <;> simp [all]

def name : Warning → String
  | .gnuInlineIgnored => "gnu_inline_ignored"
  | .alwaysInlineIgnored => "always_inline_ignored"
  | .inlineNeverDefined => "inline_never_defined"

def ofName? (name : String) : Option Warning :=
  all.find? fun w => w.name == name

theorem ofName?_name (w : Warning) : ofName? w.name = some w := by
  cases w <;> decide

end Warning

namespace Warnings

def none : Warnings := {}

def has (ws : Warnings) : Warning → Bool
  | .gnuInlineIgnored => ws.gnuInlineIgnored
  | .alwaysInlineIgnored => ws.alwaysInlineIgnored
  | .inlineNeverDefined => ws.inlineNeverDefined

def insert (ws : Warnings) : Warning → Warnings
  | .gnuInlineIgnored => { ws with gnuInlineIgnored := true }
  | .alwaysInlineIgnored => { ws with alwaysInlineIgnored := true }
  | .inlineNeverDefined => { ws with inlineNeverDefined := true }

/-- The members, in the order of all warnings. -/
def toList (ws : Warnings) : List Warning :=
  Warning.all.filter ws.has

def ofList (l : List Warning) : Warnings :=
  l.foldl insert none

def isEmpty (ws : Warnings) : Bool :=
  ws == none

@[ext] theorem ext {a b : Warnings} (h : ∀ w, a.has w = b.has w) : a = b := by
  have h1 := h .gnuInlineIgnored
  have h2 := h .alwaysInlineIgnored
  have h3 := h .inlineNeverDefined
  cases a
  cases b
  simp_all [has]

@[simp] theorem has_none (w : Warning) : none.has w = false := by
  cases w <;> rfl

@[simp] theorem has_insert (ws : Warnings) (v w : Warning) :
    (ws.insert v).has w = (v == w || ws.has w) := by
  cases v <;> cases w <;> rfl

@[simp] theorem mem_toList {ws : Warnings} {w : Warning} : w ∈ ws.toList ↔ ws.has w = true := by
  simp [toList, Warning.mem_all]

theorem has_foldl_insert (l : List Warning) (ws : Warnings) (w : Warning) :
    (l.foldl insert ws).has w = (l.contains w || ws.has w) := by
  induction l generalizing ws with
  | nil => simp
  | cons v l ih =>
    rw [List.foldl_cons, ih, has_insert, List.contains_cons, Bool.beq_comm (a := w)]
    cases v == w <;> simp

@[simp] theorem has_ofList (l : List Warning) (w : Warning) : (ofList l).has w = l.contains w := by
  rw [ofList, has_foldl_insert, has_none, Bool.or_false]

theorem ofList_toList (ws : Warnings) : ofList ws.toList = ws := by
  ext w
  rw [has_ofList, Bool.eq_iff_iff, List.contains_iff_mem, mem_toList]

end Warnings

namespace Verdict

def all : List Verdict :=
  SuccessMode.all.map .success ++ Diagnostic.plain.map .diagnostic ++
    StaticStyle.all.map (fun s => .diagnostic (.staticInconsistent s)) ++
    GnuInlineStyle.all.map fun s => .diagnostic (.gnuInlineInconsistent s)

theorem mem_all (v : Verdict) : v ∈ all := by
  cases v with
  | success m => cases m <;> decide
  | diagnostic d =>
    cases d with
    | staticInconsistent s => cases s <;> decide
    | gnuInlineInconsistent s => cases s <;> decide
    | _ => decide

/-- What holds of all verdicts can be decided by going through them. -/
instance (p : Verdict → Prop) [DecidablePred p] : Decidable (∀ v, p v) :=
  decidable_of_iff (∀ v ∈ all, p v) ⟨fun h v => h v (mem_all v), fun h v _ => h v⟩

/-- The verdict in words. -/
def chars : Verdict → List Char
  | .success m => "success(".toList ++ m.name.toList ++ [')']
  | .diagnostic (.staticInconsistent s) => "static_inconsistent(".toList ++ s.label.toList ++ [')']
  | .diagnostic (.gnuInlineInconsistent s) =>
    "gnu_inline_inconsistent(".toList ++ s.label.toList ++ [')']
  | .diagnostic d => d.name.toList

end Verdict

namespace Outcome

/-- The verdict and, each after a plus sign, the warnings. -/
def chars (o : Outcome) : List Char :=
  o.verdict.chars ++ o.warnings.toList.flatMap fun w => ' ' :: '+' :: w.name.toList

def text (o : Outcome) : String :=
  String.ofList o.chars

end Outcome

end InlineLinkage
