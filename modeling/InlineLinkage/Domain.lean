import InlineLinkage.Case

/-!
# Domains

A domain is given by four axes, and its cases are all combinations. The level varies slowest, then the
declarations, then the compiler, and the dialect varies fastest; a case is known by its position in
this order. The exhaustive domain holds every pair of subsets of the qualifiers.
-/
namespace InlineLinkage

/-- The axes of a family of cases. -/
structure Domain where
  levels : List Level
  declarations : List Declarations
  compilers : List Compiler
  dialects : List Dialect
  deriving DecidableEq, Repr

namespace Domain

/-- All cases, in order. -/
def cases (d : Domain) : List Case :=
  d.levels.flatMap fun level =>
    d.declarations.flatMap fun declarations =>
      d.compilers.flatMap fun compiler =>
        d.dialects.map fun dialect => ⟨declarations, compiler, dialect, level⟩

/-- The number of cases. -/
def caseCount (d : Domain) : Nat :=
  d.declarations.length * d.compilers.length * d.dialects.length * d.levels.length

/-- The compilers and dialects that occur together. -/
def toolchains (d : Domain) : List (Compiler × Dialect) :=
  d.compilers.flatMap fun compiler => d.dialects.map fun dialect => (compiler, dialect)

end Domain

/-- A selection of cases. -/
inductive Scope where
  /-- Hand-picked representatives. -/
  | minimal
  /-- Every subset of the qualifiers on each side. -/
  | exhaustive
  deriving DecidableEq, Repr

namespace BitPattern

/-- The number of bits of a pattern: two for each qualifier. -/
def width : Nat := 2 * Qualifier.all.length

/-- The position of a qualifier among all. -/
def position : Qualifier → Nat
  | .inlineKeyword => 0
  | .compilerInline => 1
  | .gnuInline => 2
  | .alwaysInline => 3
  | .staticStorage => 4
  | .externStorage => 5

/-- The lower bit of a qualifier puts it on the forward declaration. -/
def onPrototype (pattern : Nat) (q : Qualifier) : Bool :=
  pattern.testBit (2 * position q)

/-- A qualifier is on the definition when its two bits differ. So a pattern with the lower bit alone
repeats the forward declaration. -/
def onDefinition (pattern : Nat) (q : Qualifier) : Bool :=
  pattern.testBit (2 * position q) ^^ pattern.testBit (2 * position q + 1)

/-- The declarations that a pattern describes. -/
def declarations (pattern : Nat) : Declarations :=
  ⟨some (Qualifier.all.filter (onPrototype pattern)), Qualifier.all.filter (onDefinition pattern)⟩

/-- The number of bits that are set. -/
def weight (pattern : Nat) : Nat :=
  (List.range width).countP pattern.testBit

/-- All patterns, those with fewer bits first and otherwise in numerical order. So the simplest
declarations that show a failure come first. -/
def all : List Nat :=
  (List.range (width + 1)).flatMap fun w => (List.range (Nat.pow 2 width)).filter (weight · == w)

end BitPattern

namespace Domain

/-- The declarations of the minimal domain. -/
def minimalDeclarations : List Declarations :=
  let i := Qualifier.inlineKeyword
  let c := Qualifier.compilerInline
  let g := Qualifier.gnuInline
  let a := Qualifier.alwaysInline
  let s := Qualifier.staticStorage
  let e := Qualifier.externStorage
  [.symmetric [], .symmetric [i], ⟨some [], [i]⟩, ⟨some [i], []⟩, .symmetric [c], .symmetric [i, c],
    .symmetric [s], .symmetric [s, i], ⟨some [s], [i]⟩, .symmetric [s, c], .symmetric [e, i],
    ⟨some [e], [i]⟩, .symmetric [g], .symmetric [i, g], ⟨some [g], [i, g]⟩, ⟨some [i, g], [g]⟩,
    ⟨some [i], [i, g]⟩, ⟨some [i, g], [i]⟩, .symmetric [e, g], .symmetric [e, i, g],
    .symmetric [s, g], .symmetric [a], .symmetric [i, a], .symmetric [e, a], .symmetric [e, i, a],
    .symmetric [s, a], ⟨some [i], [i, g, s]⟩, .definitionOnly [i], .definitionOnly [s, i]]

def minimal : Domain :=
  ⟨[.o0, .o1], minimalDeclarations, [.gcc], [.c89, .gnu89, .gnu99, .gnuCxx11]⟩

def exhaustive : Domain :=
  ⟨Level.all, BitPattern.all.map BitPattern.declarations, [.gcc], Dialect.all⟩

/-- The domain of a scope. -/
def ofScope : Scope → Domain
  | .minimal => minimal
  | .exhaustive => exhaustive

/-- The recorded size of the exhaustive domain. -/
def exhaustiveCaseCount : Nat := 286720

end Domain

end InlineLinkage
