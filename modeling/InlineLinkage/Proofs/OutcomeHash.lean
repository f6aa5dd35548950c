import InlineLinkage.Proofs.GccDomain
import InlineLinkage.ResumeToken

/-!
# The hash of a row of outcomes

A digest in progress shows the hash of all that was taken into it, computed at once: sixty-four digits
of base sixteen, in lower case. A resume token shows the first eight of them.
-/
namespace InlineLinkage

namespace Sha256

theorem length_digest (message : List UInt8) : (digest message).length = 32 := by
  simp [digest, Chain.bytes, wordBytes]

end Sha256

namespace Outcome

/-- The hash of a row of outcomes in digits. -/
def hashChars (os : List Outcome) : List Char :=
  (Sha256.digest (os.flatMap digestBytes)).flatMap OutcomeDigest.byteChars

end Outcome

namespace OutcomeDigest

theorem length_byteChars (b : UInt8) : (byteChars b).length = 2 := rfl

theorem isDigestDigit_digitChar {n : ℕ} (hn : n < 16) :
    ResumeToken.isDigestDigit (Nat.digitChar n) = true := by
  interval_cases n <;> decide

theorem isDigestDigit_of_mem_byteChars {b : UInt8} {c : Char} (hc : c ∈ byteChars b) :
    ResumeToken.isDigestDigit c = true := by
  have hb : b.toNat < 256 := b.toNat_lt
  simp only [byteChars, List.mem_cons, List.not_mem_nil, or_false] at hc
  obtain rfl | rfl := hc
  · exact isDigestDigit_digitChar (by omega)
  · exact isDigestDigit_digitChar (by omega)

@[simp] theorem foldAll_nil (d : OutcomeDigest) : d.foldAll [] = d := rfl

@[simp] theorem foldAll_cons (d : OutcomeDigest) (o : Outcome) (os : List Outcome) :
    d.foldAll (o :: os) = (d.fold o).foldAll os := rfl

theorem foldAll_append (d : OutcomeDigest) (os ps : List Outcome) :
    d.foldAll (os ++ ps) = (d.foldAll os).foldAll ps :=
  List.foldl_append

@[simp] theorem folded_foldAll (d : OutcomeDigest) (os : List Outcome) :
    (d.foldAll os).folded = d.folded + os.length := by
  induction os generalizing d with
  | nil => rfl
  | cons o os ih =>
    simp only [foldAll_cons, ih, fold, List.length_cons]
    omega

theorem hasher_foldAll (d : OutcomeDigest) (os : List Outcome) :
    (d.foldAll os).hasher = d.hasher.absorb (os.flatMap Outcome.digestBytes) := by
  induction os generalizing d with
  | nil => rfl
  | cons o os ih => rw [foldAll_cons, ih, List.flatMap_cons, Sha256.Hasher.absorb_append, fold]

/-- Outcomes taken one after the other give the hash of the row. -/
theorem chars_foldAll (os : List Outcome) : (empty.foldAll os).chars = Outcome.hashChars os := by
  rw [chars, hasher_foldAll, Outcome.hashChars]
  exact congrArg (List.flatMap byteChars) (Sha256.finish_absorb _)

/-- With rules for all cases, no case stops a digest. -/
theorem foldCases_of_gcc (d : OutcomeDigest) {cs : List Case} (hc : ∀ c ∈ cs, c.compiler = .gcc) :
    d.foldCases cs = .ok (d.foldAll (cs.map Case.outcome)) := by
  induction cs generalizing d with
  | nil => rfl
  | cons c cs ih =>
    rw [foldCases, Case.predict_of_gcc (hc c List.mem_cons_self)]
    exact ih (d.fold c.outcome) fun c hm => hc c (List.mem_cons_of_mem _ hm)

end OutcomeDigest

namespace Outcome

theorem length_hashChars (os : List Outcome) : (hashChars os).length = 64 := by
  simp [hashChars, List.length_flatMap, OutcomeDigest.length_byteChars, Sha256.length_digest]

theorem isDigestDigit_of_mem_hashChars {os : List Outcome} {c : Char} (hc : c ∈ hashChars os) :
    ResumeToken.isDigestDigit c = true := by
  obtain ⟨b, -, hb⟩ := List.mem_flatMap.mp hc
  exact OutcomeDigest.isDigestDigit_of_mem_byteChars hb

end Outcome

namespace Domain

/-- The digits of the hash of the outcomes before a position. -/
def hashBefore (d : Domain) (n : ℕ) : List Char :=
  Outcome.hashChars (d.outcomesBefore n)

/-- The digest of the outcomes before a position. -/
def digestBefore (d : Domain) (n : ℕ) : OutcomeDigest :=
  OutcomeDigest.empty.foldAll (d.outcomesBefore n)

@[simp] theorem chars_digestBefore (d : Domain) (n : ℕ) :
    (d.digestBefore n).chars = d.hashBefore n :=
  OutcomeDigest.chars_foldAll _

theorem folded_digestBefore {d : Domain} {n : ℕ} (hn : n ≤ d.caseCount) :
    (d.digestBefore n).folded = n := by
  rw [digestBefore, OutcomeDigest.folded_foldAll, length_outcomesBefore hn]
  exact Nat.zero_add n

theorem digestBefore_add (d : Domain) (n m : ℕ) :
    d.digestBefore (n + m) =
      (d.digestBefore n).foldAll (((d.cases.drop n).take m).map Case.outcome) := by
  rw [digestBefore, outcomesBefore_add, OutcomeDigest.foldAll_append, digestBefore]

/-- The token that stands before the case at a position. -/
def tokenAt (d : Domain) (n : ℕ) : ResumeToken :=
  ⟨n, some (String.ofList ((d.hashBefore n).take 8))⟩

/-- The digest of a whole domain. -/
theorem ofDomain_of_gcc {d : Domain} (hd : d.ForGcc) :
    OutcomeDigest.ofDomain d = .ok (d.digestBefore d.caseCount) := by
  rw [OutcomeDigest.ofDomain, OutcomeDigest.foldCases_of_gcc _ hd.compiler_eq, digestBefore,
    outcomesBefore, ← length_cases, List.take_length]

end Domain

end InlineLinkage
