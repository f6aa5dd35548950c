import InlineLinkage.OutcomeDigest
import InlineLinkage.Proofs.OutcomeEncoding
import InlineLinkage.Proofs.Utf8

/-!
# One text for each outcome

The texts that are read as an outcome list its warnings in any order and number, with any white space, in
fields of any order among members that are no fields, with every name in two spellings. The outcome that is
read keeps the verdict and the set of the warnings, and its encoding lists this set in one order. So the
bytes that a digest takes for two texts are the same exactly if the texts mean the same outcome.
-/
namespace InlineLinkage

open Json Text

/-- The members of a set that is read from a list come in the order of all warnings. -/
theorem Warnings.toList_ofList (l : List Warning) : (ofList l).toList = Warning.all.filter (· ∈ l) := by
  refine List.filter_congr fun w _ => ?_
  rw [has_ofList, List.contains_eq_mem]

theorem Warnings.ofList_eq_iff {l l' : List Warning} : ofList l = ofList l' ↔ ∀ w, w ∈ l ↔ w ∈ l' := by
  constructor
  · intro h w
    have hw := congrArg (fun ws => has ws w) h
    simpa using hw
  · intro h
    ext w
    simpa using h w

namespace Outcome

/-- White space apart, the text is a record of the verdict and of a row with the names of these warnings,
in this order and with these repetitions. -/
def Lists (s : String) (verdict : Verdict) (l : List Warning) : Prop :=
  ∃ (v content : Value) (items : List Value), Spells v.tokens s.toList ∧
    v.IsRecord [("verdict", some content), ("warnings", some (.array items))] ∧
    verdict.EncodedBy content ∧ List.Forall₂ (fun item w => item.Names (Warning.name w)) items l

theorem lists_listing (verdict : Verdict) (l : List Warning) :
    Lists (listing verdict l).compact verdict l := by
  refine ⟨listing verdict l, _, _, ?_, isRecord_listing verdict l, verdict.encodedBy_toJson,
    Warning.names_row l⟩
  rw [Value.compact, String.toList_ofList]
  exact spells_chars (plain_listing verdict l)

/-- A text is read as an outcome exactly when it lists the verdict and warnings that make up its set. -/
theorem ofEncoded?_eq_some_iff_lists {s : String} {o : Outcome} :
    ofEncoded? s = some o ↔ ∃ l, Lists s o.verdict l ∧ Warnings.ofList l = o.warnings := by
  rw [ofEncoded?_eq_some_iff]
  constructor
  · rintro ⟨v, hv, content, _, hrecord, hverdict, items, l, rfl, hl, hset⟩
    exact ⟨l, ⟨v, content, items, hv, hrecord, hverdict, hl⟩, hset⟩
  · rintro ⟨l, ⟨v, content, items, hv, hrecord, hverdict, hl⟩, hset⟩
    exact ⟨v, hv, content, _, hrecord, hverdict, items, l, rfl, hl, hset⟩

theorem Lists.ofEncoded?_eq {s : String} {verdict : Verdict} {l : List Warning}
    (h : Lists s verdict l) : ofEncoded? s = some ⟨verdict, .ofList l⟩ :=
  ofEncoded?_eq_some_iff_lists.mpr ⟨l, h, rfl⟩

/-- What is encoded again is listed once and in order. -/
theorem encoded_ofList (verdict : Verdict) (l : List Warning) :
    encoded ⟨verdict, .ofList l⟩ = (listing verdict (Warning.all.filter (· ∈ l))).compact := by
  rw [← Warnings.toList_ofList, encoded, encodedChars, toJson_eq_listing, Value.compact]

theorem encoded_inj {o o' : Outcome} : o.encoded = o'.encoded ↔ o = o' := by
  constructor
  · intro h
    exact encodedChars_injective (String.ofList_injective h)
  · rintro rfl
    rfl

theorem digestBytes_inj {o o' : Outcome} : o.digestBytes = o'.digestBytes ↔ o = o' := by
  constructor
  · intro h
    exact encodedChars_injective (List.append_cancel_right (encodeChars_injective h))
  · rintro rfl
    rfl

/-- Every row of warnings beside any verdict is read, in whatever spelling, and the encoding of what was read
lists each of them once, in one order. Every text that is read is one of these. Two of them are encoded
again alike exactly if they have the same verdict and the same warnings, and the second encoding is read
as the same outcome. So two texts mean the same outcome exactly if a digest takes the same bytes for
them. -/
theorem decoding_canonicalises :
    (∀ (verdict : Verdict) (l : List Warning), Lists (listing verdict l).compact verdict l) ∧
      (∀ (s : String) (verdict : Verdict) (l : List Warning), Lists s verdict l →
        ∃ o, ofEncoded? s = some o ∧
          o.encoded = (listing verdict (Warning.all.filter (· ∈ l))).compact) ∧
      (∀ (s : String) (o : Outcome), ofEncoded? s = some o →
        (∃ l, Lists s o.verdict l) ∧ ofEncoded? o.encoded = some o) ∧
      (∀ (s s' : String) (verdict verdict' : Verdict) (l l' : List Warning) (o o' : Outcome),
        Lists s verdict l → Lists s' verdict' l' → ofEncoded? s = some o → ofEncoded? s' = some o' →
          (o.encoded = o'.encoded ↔ verdict = verdict' ∧ ∀ w, w ∈ l ↔ w ∈ l')) ∧
      ∀ (s s' : String) (o o' : Outcome), ofEncoded? s = some o → ofEncoded? s' = some o' →
        (o = o' ↔ o.digestBytes = o'.digestBytes) := by
  refine ⟨lists_listing, fun s verdict l h => ?_, fun s o h => ?_,
    fun s s' verdict verdict' l l' o o' hl hl' h h' => ?_, fun _ _ _ _ _ _ => digestBytes_inj.symm⟩
  · exact ⟨_, h.ofEncoded?_eq, encoded_ofList verdict l⟩
  · obtain ⟨l, hl, -⟩ := ofEncoded?_eq_some_iff_lists.mp h
    exact ⟨⟨l, hl⟩, ofEncoded?_encoded o⟩
  · obtain rfl := Option.some.inj (hl.ofEncoded?_eq.symm.trans h)
    obtain rfl := Option.some.inj (hl'.ofEncoded?_eq.symm.trans h')
    rw [encoded_inj, ← Warnings.ofList_eq_iff, Outcome.mk.injEq]

/-- A row with a repetition, and the same set in a record without names and in the other spelling of names. -/
theorem decoding_canonicalises_repeated :
    let verdict : Verdict := .diagnostic (.staticInconsistent .plain)
    let l : List Warning := [.inlineNeverDefined, .gnuInlineIgnored, .inlineNeverDefined]
    let s := (listing verdict l).compact
    let s' := " [\x7b\"diagnostic\":\x7b\"static_inconsistent\":\x7b\"plain\":null\x7d\x7d\x7d,\n" ++
      "[\"gnu_inline_ignored\", \x7b\"inline_never_defined\":null\x7d]] "
    let o : Outcome := ⟨verdict, .ofList l⟩
    ofEncoded? s = some o ∧ ofEncoded? s' = some o ∧
      o.encoded = (listing verdict [.gnuInlineIgnored, .inlineNeverDefined]).compact ∧
      ofEncoded? o.encoded = some o := by
  intro verdict l s s' o
  have hs' : ofEncoded? s' = some o := by decide +kernel
  obtain ⟨hlists, hcanonical, hback, -, -⟩ := decoding_canonicalises
  obtain ⟨o', hs, ho'⟩ := hcanonical s verdict l (hlists verdict l)
  obtain rfl : o = o' := Option.some.inj ((hlists verdict l).ofEncoded?_eq.symm.trans hs)
  exact ⟨hs, hs', ho', (hback s' o hs').2⟩

end Outcome

end InlineLinkage
