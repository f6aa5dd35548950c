import InlineLinkage.Proofs.CaseArguments
import InlineLinkage.Proofs.OutcomeEncoding
import InlineLinkage.Proofs.OutcomeHash
import InlineLinkage.Proofs.Utf8

/-!
# What a digest stands for

A digest hashes a stream: the encodings of its outcomes, each on a line. No encoding has a line feed in it
and no two are the same, so the stream shows the outcomes, and one stream starts another just if the
outcomes do. Two rows with the same digest are the same, or the hash has a collision. Digests in progress
may be copied and read at any time: each reads as the hash of all that was taken into it.
-/
namespace InlineLinkage

open Text

section Blocks

variable {α β : Type} {stop : β}

/-- The first of two ended blocks is found in any stream. -/
theorem append_stop_prefix_iff {a b : List β} (ha : stop ∉ a) (hb : stop ∉ b) {s t : List β} :
    a ++ stop :: s <+: b ++ stop :: t ↔ a = b ∧ s <+: t := by
  induction a generalizing b with
  | nil =>
    cases b with
    | nil => simp [List.cons_prefix_cons]
    | cons y b =>
      obtain ⟨hy, -⟩ := not_or.mp (List.mem_cons.not.mp hb)
      simp [List.cons_prefix_cons, hy]
  | cons x a ih =>
    obtain ⟨hx, ha⟩ := not_or.mp (List.mem_cons.not.mp ha)
    cases b with
    | nil => simp [List.cons_prefix_cons, Ne.symm hx]
    | cons y b =>
      obtain ⟨-, hb⟩ := not_or.mp (List.mem_cons.not.mp hb)
      simp only [List.cons_append, List.cons_prefix_cons, ih ha hb, List.cons.injEq, and_assoc]

variable {block : α → List β}

/-- A row of ended blocks starts another just if the blocks do, one by one. -/
theorem flatMap_stop_prefix_iff (hinj : Function.Injective block) (hstop : ∀ a, stop ∉ block a)
    {as bs : List α} :
    (as.flatMap fun a => block a ++ [stop]) <+: (bs.flatMap fun b => block b ++ [stop]) ↔
      as <+: bs := by
  induction as generalizing bs with
  | nil => simp
  | cons a as ih =>
    cases bs with
    | nil => simp
    | cons b bs =>
      simp only [List.flatMap_cons, List.append_assoc, List.singleton_append,
        append_stop_prefix_iff (hstop a) (hstop b), ih, hinj.eq_iff, List.cons_prefix_cons]

end Blocks

namespace Outcome

/-- The bytes that a row of outcomes gives to the hash. -/
def stream (os : List Outcome) : List UInt8 :=
  os.flatMap digestBytes

theorem stream_eq (os : List Outcome) :
    stream os = os.flatMap fun o => encodeChars o.encodedChars ++ [10] := by
  have hstop : encodeChars ['\n'] = [10] := by decide
  refine congrArg (fun block => os.flatMap block) (funext fun o => ?_)
  rw [digestBytes, encodeChars_append, hstop]

/-- One stream starts another just if the outcomes do. -/
theorem stream_prefix_iff {os ps : List Outcome} : stream os <+: stream ps ↔ os <+: ps := by
  have hinj : Function.Injective fun o : Outcome => encodeChars o.encodedChars :=
    encodeChars_injective.comp encodedChars_injective
  have hstop (o : Outcome) : (10 : UInt8) ∉ encodeChars o.encodedChars :=
    newline_not_mem_encodeChars o.newline_not_mem_encodedChars
  rw [stream_eq, stream_eq]
  exact flatMap_stop_prefix_iff hinj hstop

/-- Equal streams come from the same outcomes. -/
theorem stream_inj {os ps : List Outcome} : stream os = stream ps ↔ os = ps := by
  constructor
  · intro h
    have hprefix : os <+: ps := stream_prefix_iff.mp (h ▸ List.prefix_rfl)
    have hprefix' : ps <+: os := stream_prefix_iff.mp (h ▸ List.prefix_rfl)
    exact hprefix.eq_of_length_le hprefix'.length_le
  · rintro rfl
    rfl

end Outcome

/-- What can be done with one digest. -/
structure DigestOps (δ : Type) where
  empty : δ
  fold : δ → Outcome → δ
  folded : δ → ℕ
  hex : δ → String
  start : δ → ℕ → String
  tokenStart : δ → String

/-- The digests of the program. -/
def OutcomeDigest.ops : DigestOps OutcomeDigest :=
  ⟨empty, fold, folded, hex, start, tokenStart⟩

/-- Digests that only keep their outcomes, and hash the whole stream whenever they are read. -/
def Outcome.rowOps : DigestOps (List Outcome) where
  empty := []
  fold os o := os ++ [o]
  folded := List.length
  hex os := String.ofList (hashChars os)
  start os count := String.ofList ((hashChars os).take (min count 64))
  tokenStart os := String.ofList ((hashChars os).take 8)

/-- A use of digests that are numbered in the order in which they were made. -/
inductive DigestUse where
  | create
  | copy (source : ℕ)
  | fold (target : ℕ) (o : Outcome)
  | folded (target : ℕ)
  | hex (target : ℕ)
  | start (target count : ℕ)
  | tokenStart (target : ℕ)
  deriving DecidableEq, Repr

/-- What is read off a digest. -/
inductive DigestReading where
  | count (n : ℕ)
  | digits (s : String)
  deriving DecidableEq, Repr

namespace DigestUse

variable {δ σ : Type}

/-- The digests after a use, and what was read. -/
def apply (ops : DigestOps δ) (ds : List δ) : DigestUse → List δ × Option DigestReading
  | .create => (ds ++ [ops.empty], none)
  | .copy source => (ds ++ ds[source]?.toList, none)
  | .fold target o => (ds.modify target fun d => ops.fold d o, none)
  | .folded target => (ds, ds[target]?.map fun d => .count (ops.folded d))
  | .hex target => (ds, ds[target]?.map fun d => .digits (ops.hex d))
  | .start target count => (ds, ds[target]?.map fun d => .digits (ops.start d count))
  | .tokenStart target => (ds, ds[target]?.map fun d => .digits (ops.tokenStart d))

/-- What is read during a row of uses. -/
def readings (ops : DigestOps δ) : List δ → List DigestUse → List (Option DigestReading)
  | _, [] => []
  | ds, u :: uses => (u.apply ops ds).2 :: readings ops (u.apply ops ds).1 uses

end DigestUse

/-- One kind of digest reads as the states of another. -/
structure DigestOps.Refines {δ σ : Type} (ops : DigestOps δ) (spec : DigestOps σ) (f : σ → δ) :
    Prop where
  empty : ops.empty = f spec.empty
  fold : ∀ s o, ops.fold (f s) o = f (spec.fold s o)
  folded : ∀ s, ops.folded (f s) = spec.folded s
  hex : ∀ s, ops.hex (f s) = spec.hex s
  start : ∀ s count, ops.start (f s) count = spec.start s count
  tokenStart : ∀ s, ops.tokenStart (f s) = spec.tokenStart s

namespace DigestOps.Refines

variable {δ σ : Type} {ops : DigestOps δ} {spec : DigestOps σ} {f : σ → δ}

/-- A use keeps the digests apart and in step, and a reading changes none of them. -/
theorem apply_map (h : ops.Refines spec f) (ss : List σ) (u : DigestUse) :
    u.apply ops (ss.map f) = ((u.apply spec ss).1.map f, (u.apply spec ss).2) := by
  cases u with
  | create => simp [DigestUse.apply, h.empty]
  | copy source =>
    rw [DigestUse.apply, DigestUse.apply, List.map_append, List.getElem?_map]
    cases ss[source]? <;> rfl
  | fold target o =>
    have hmodify : (ss.map f).modify target (fun d => ops.fold d o) =
        (ss.modify target fun s => spec.fold s o).map f := by
      apply List.ext_getElem?
      intro n
      rw [List.getElem?_modify, List.getElem?_map, List.getElem?_map, List.getElem?_modify]
      by_cases hn : target = n
      · cases ss[n]? <;> simp [hn, h.fold]
      · cases ss[n]? <;> simp [hn]
    rw [DigestUse.apply, DigestUse.apply, hmodify]
  | folded target => simp [DigestUse.apply, h.folded, Function.comp_def]
  | hex target => simp [DigestUse.apply, h.hex, Function.comp_def]
  | start target count => simp [DigestUse.apply, h.start, Function.comp_def]
  | tokenStart target => simp [DigestUse.apply, h.tokenStart, Function.comp_def]

theorem readings_map (h : ops.Refines spec f) (ss : List σ) (uses : List DigestUse) :
    DigestUse.readings ops (ss.map f) uses = DigestUse.readings spec ss uses := by
  induction uses generalizing ss with
  | nil => rfl
  | cons u uses ih => rw [DigestUse.readings, h.apply_map, ih, DigestUse.readings]

end DigestOps.Refines

namespace OutcomeDigest

/-- A digest reads as the row of outcomes that was taken into it. -/
theorem ops_refines : ops.Refines Outcome.rowOps empty.foldAll where
  empty := rfl
  fold os o := (foldAll_append empty os [o]).symm
  folded os := by
    have hcount := folded_foldAll empty os
    exact hcount.trans (Nat.zero_add os.length)
  hex os := by
    simp only [ops, Outcome.rowOps, hex, chars_foldAll]
  start os count := by
    have htake : (Outcome.hashChars os).take (min count 64) = (Outcome.hashChars os).take count := by
      rw [← Outcome.length_hashChars os, ← List.take_eq_take_min]
    simp only [ops, Outcome.rowOps, start, chars_foldAll, htake]
  tokenStart os := by
    simp only [ops, Outcome.rowOps, tokenStart, start, tokenLength, chars_foldAll]

/-- The program has rules for all cases of its domains. -/
theorem forGcc_ofScope (scope : Scope) : (Domain.ofScope scope).ForGcc := by
  cases scope with
  | minimal => exact List.forall_mem_singleton.mpr rfl
  | exhaustive => exact List.forall_mem_singleton.mpr rfl

/-- What the program prints for the cases of a domain, one after the other, is their stream. -/
theorem encodeChars_classified {d : Domain} (hd : d.ForGcc) (w : World) :
    encodeChars (d.cases.flatMap fun c => (CommandLine.program w c.classifyArguments).output.toList) =
      Outcome.stream (d.cases.map Case.outcome) := by
  have hlines : ∀ c ∈ d.cases, (CommandLine.program w c.classifyArguments).output.toList =
      c.outcome.encodedChars ++ ['\n'] := by
    intro c hc
    rw [Case.program_classifyArguments (hd.compiler_eq c hc)]
    simp [Outcome.encoded]
  rw [List.flatMap_congr hlines, Outcome.stream, List.flatMap_map, encodeChars, List.flatMap_assoc]
  rfl

end OutcomeDigest

end InlineLinkage
