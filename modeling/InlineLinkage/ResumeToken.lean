import InlineLinkage.Text.Blank
import InlineLinkage.Text.Number
import InlineLinkage.Text.Quoted

/-!
# Resume tokens

A token names how many cases to skip and may hold the first digits of the digest of their outcomes. It
is written `N` or `N:digits`. The digits are those of base sixteen, in lower case.
-/
namespace InlineLinkage

open Text

structure ResumeToken where
  index : Nat
  digestStart : Option String := none
  deriving DecidableEq, Repr

/-- A text that is no token. -/
structure MalformedToken where
  raw : String
  deriving DecidableEq, Repr

def MalformedToken.message (e : MalformedToken) : String :=
  "malformed resume token " ++ quote e.raw ++ " (expected N or N:hexprefix)"

namespace ResumeToken

/-- A digit of a digest. -/
def isDigestDigit (c : Char) : Bool :=
  c.isDigit || ('a' ≤ c && c ≤ 'f')

/-- Indices fit sixty-four bits. -/
def indexBound : Nat := Nat.pow 2 64

/-- The index that a row of digits denotes. -/
def index? (s : List Char) : Option Nat :=
  if s = [] ∨ ¬ s.all Char.isDigit then none
  else
    let n := ofDigitChars s
    if n < indexBound then some n else none

/-- What stands before the first colon, and what stands after it when there is one. -/
def splitColon : List Char → List Char × Option (List Char)
  | [] => ([], none)
  | c :: rest =>
    if c = ':' then ([], some rest)
    else
      let (before, after) := splitColon rest
      (c :: before, after)

/-- The token that a text spells. -/
def ofChars? (s : List Char) : Option ResumeToken :=
  match splitColon s with
  | (before, none) => (index? before).map fun n => ⟨n, none⟩
  | (before, some digits) =>
    if digits = [] ∨ ¬ digits.all isDigestDigit then none
    else (index? before).map fun n => ⟨n, some (String.ofList digits)⟩

def ofText (s : String) : Except MalformedToken ResumeToken :=
  match ofChars? s.toList with
  | some t => .ok t
  | none => .error ⟨s⟩

def chars (t : ResumeToken) : List Char :=
  natChars t.index ++
    match t.digestStart with
    | some digits => ':' :: digits.toList
    | none => []

def text (t : ResumeToken) : String :=
  String.ofList t.chars

end ResumeToken

/-- Where a token was given. -/
inductive TokenSource where
  | option
  | environment
  deriving DecidableEq, Repr

def TokenSource.label : TokenSource → String
  | .option => "--skip"
  | .environment => "INLINE_ORACLE_SKIP"

/-- A token that cannot be read. -/
structure TokenError where
  source : TokenSource
  cause : MalformedToken
  deriving DecidableEq, Repr

/-- The messages of the error, the outermost first. -/
def TokenError.chain (e : TokenError) : List String :=
  ["parse resume token from " ++ e.source.label, e.cause.message]

namespace ResumeToken

def ofSource (source : TokenSource) (s : String) : Except TokenError (Option ResumeToken) :=
  match ofText (trim s) with
  | .ok t => .ok (some t)
  | .error e => .error ⟨source, e⟩

/-- The token to start from. The option comes before the environment, where a blank text counts as
none. -/
def resolve (option environment : Option String) : Except TokenError (Option ResumeToken) :=
  match option, environment with
  | some s, _ => ofSource .option s
  | none, some s => if isAllBlank s then .ok none else ofSource .environment s
  | none, none => .ok none

end ResumeToken

end InlineLinkage
