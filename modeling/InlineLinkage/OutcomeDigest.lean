import InlineLinkage.Domain
import InlineLinkage.Outcome.Encoding
import InlineLinkage.Prediction
import InlineLinkage.Sha256
import InlineLinkage.Text.Utf8

/-!
# Digests of outcomes

The hash of a row of outcomes, taken one after the other. Each contributes its encoding and a line feed.
The digest of a domain is a recorded value, so that a change of any rule shows.
-/
namespace InlineLinkage

open Text

/-- What one outcome contributes to the hash. -/
def Outcome.digestBytes (o : Outcome) : List UInt8 :=
  encodeChars (o.encodedChars ++ ['\n'])

/-- A digest in progress, and the number of its outcomes. -/
structure OutcomeDigest where
  hasher : Sha256.Hasher := {}
  folded : Nat := 0

namespace OutcomeDigest

def empty : OutcomeDigest := {}

/-- Takes one more outcome. -/
def fold (d : OutcomeDigest) (o : Outcome) : OutcomeDigest :=
  ⟨d.hasher.absorb o.digestBytes, d.folded + 1⟩

def foldAll (d : OutcomeDigest) (os : List Outcome) : OutcomeDigest :=
  os.foldl fold d

/-- A byte as two digits. -/
def byteChars (b : UInt8) : List Char :=
  [Nat.digitChar (b.toNat / 16), Nat.digitChar (b.toNat % 16)]

/-- The hash in sixty-four digits. -/
def chars (d : OutcomeDigest) : List Char :=
  d.hasher.finish.flatMap byteChars

def hex (d : OutcomeDigest) : String :=
  String.ofList d.chars

/-- The first digits, all of them when fewer are there. -/
def start (d : OutcomeDigest) (count : Nat) : String :=
  String.ofList (d.chars.take count)

/-- The number of digits in a resume token. -/
def tokenLength : Nat := 8

/-- The digits that a resume token shows. -/
def tokenStart (d : OutcomeDigest) : String :=
  d.start tokenLength

/-- Takes the outcomes of a row of cases. The first case without one is the error, with the number of
cases before it. -/
def foldCases (d : OutcomeDigest) : List Case → Except (Nat × UnknownCase) OutcomeDigest
  | [] => .ok d
  | c :: rest =>
    match c.predict with
    | .error e => .error (d.folded, e)
    | .ok o => (d.fold o).foldCases rest

/-- The digest of all cases of a domain. -/
def ofDomain (d : Domain) : Except (Nat × UnknownCase) OutcomeDigest :=
  empty.foldCases d.cases

/-- The recorded digest of the exhaustive domain. A changed rule changes it. -/
def exhaustiveHex : String :=
  "3a2834dec89abddf1032f9b9c1c68e08f8c216f88eca8b1100619549dd005f7b"

end OutcomeDigest

end InlineLinkage
