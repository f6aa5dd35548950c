import InlineLinkage.Outcome.Encoding
import InlineLinkage.Proofs.CompactJson
import InlineLinkage.Proofs.JsonRecords

/-!
# Encoded outcomes read back

What is read as an outcome: a record of a verdict, under the name of its kind, and of a row of warnings in
any order and number. The encoding of an outcome is one of these texts, so no other outcome has the same
one, and it is a single line.
-/
namespace InlineLinkage

open Json

/-- A value under the name of its kind. -/
def Json.Value.Tagged (v : Value) (tag : String) (content : Value) : Prop :=
  v.variant? = some (tag, some content)

theorem Json.Value.tagged_object (tag : String) (content : Value) :
    (object [(pieces tag, content)]).Tagged tag content := by
  rw [Tagged, variant?, piecesText?_pieces, Option.map_some]

/-- A name with `null` behind it is a tag as well, the same one. -/
theorem Json.Value.Names.eq_tag {v content : Value} {name tag : String} (h : v.Names name)
    (ht : v.Tagged tag content) : name = tag := by
  obtain ⟨s, hs, rfl | rfl⟩ := h
  · simp [Tagged, variant?] at ht
  · simp [Tagged, variant?, hs] at ht
    exact ht.1

/-- A diagnostic is named, and one with a style is the name of the style under its own. -/
def Diagnostic.EncodedBy (d : Diagnostic) (v : Value) : Prop :=
  match d with
  | .staticInconsistent s => ∃ style, v.Tagged "static_inconsistent" style ∧ style.Names s.name
  | .gnuInlineInconsistent s =>
    ∃ style, v.Tagged "gnu_inline_inconsistent" style ∧ style.Names s.name
  | d => v.Names d.name

def Verdict.EncodedBy (verdict : Verdict) (v : Value) : Prop :=
  match verdict with
  | .success m => ∃ mode, v.Tagged "success" mode ∧ mode.Names m.name
  | .diagnostic d => ∃ diagnostic, v.Tagged "diagnostic" diagnostic ∧ d.EncodedBy diagnostic

/-- A row of names is read as the set of the warnings with these names. -/
def Warnings.EncodedBy (ws : Warnings) (v : Value) : Prop :=
  ∃ items l, v = .array items ∧ List.Forall₂ (fun item w => item.Names (Warning.name w)) items l ∧
    ofList l = ws

/-- A record of the two. -/
def Outcome.EncodedBy (o : Outcome) (v : Value) : Prop :=
  ∃ verdict warnings, v.IsRecord [("verdict", some verdict), ("warnings", some warnings)] ∧
    o.verdict.EncodedBy verdict ∧ o.warnings.EncodedBy warnings

theorem StaticStyle.find?_name (s : StaticStyle) :
    (all.find? fun t => t.name == s.name) = some s := by
  cases s <;> decide

theorem GnuInlineStyle.find?_name (s : GnuInlineStyle) :
    (all.find? fun t => t.name == s.name) = some s := by
  cases s <;> decide

theorem SuccessMode.find?_name (m : SuccessMode) :
    (all.find? fun n => n.name == m.name) = some m := by
  cases m <;> decide

theorem Diagnostic.find?_name {d : Diagnostic} (hd : d ∈ plain) :
    (plain.find? fun e => e.name == d.name) = some d := by
  revert d
  decide

theorem Diagnostic.ofJson?_of_names {v : Value} {d : Diagnostic} (hd : d ∈ plain)
    (h : v.Names d.name) : ofJson? v = some d := by
  -- A name is a tag with `null` behind it, but no diagnostic without a style has one of these two.
  have hstyled : ∀ e ∈ plain, e.name ≠ "static_inconsistent" ∧ e.name ≠ "gnu_inline_inconsistent" := by
    decide
  unfold ofJson?
  split
  · rename_i hv
    exact absurd (h.eq_tag hv) (hstyled d hd).1
  · rename_i hv
    exact absurd (h.eq_tag hv) (hstyled d hd).2
  · rw [Value.name?_eq_some_iff.mpr h]
    exact find?_name hd

theorem Diagnostic.ofJson?_eq_some_iff {v : Value} {d : Diagnostic} :
    ofJson? v = some d ↔ d.EncodedBy v := by
  constructor
  · intro h
    unfold ofJson? at h
    split at h
    · rename_i style hv
      obtain ⟨s, hs, rfl⟩ :=
        (Value.name?_bind_map_find?_eq_some_iff _ StaticStyle.find?_name).mp h
      exact ⟨style, hv, hs⟩
    · rename_i style hv
      obtain ⟨s, hs, rfl⟩ :=
        (Value.name?_bind_map_find?_eq_some_iff _ GnuInlineStyle.find?_name).mp h
      exact ⟨style, hv, hs⟩
    · obtain ⟨n, hn, hd⟩ := Option.bind_eq_some_iff.mp h
      obtain rfl : d.name = n := by simpa using List.find?_some hd
      have hplain : d ∈ plain := List.mem_of_find?_eq_some hd
      have hnames := Value.name?_eq_some_iff.mp hn
      cases d with
      | staticInconsistent s => simp [plain] at hplain
      | gnuInlineInconsistent s => simp [plain] at hplain
      | _ => exact hnames
  · intro h
    cases d with
    | staticInconsistent s =>
      obtain ⟨style, hv, hs⟩ := h
      simp only [ofJson?, show v.variant? = _ from hv]
      exact (Value.name?_bind_map_find?_eq_some_iff _ StaticStyle.find?_name).mpr ⟨s, hs, rfl⟩
    | gnuInlineInconsistent s =>
      obtain ⟨style, hv, hs⟩ := h
      simp only [ofJson?, show v.variant? = _ from hv]
      exact (Value.name?_bind_map_find?_eq_some_iff _ GnuInlineStyle.find?_name).mpr ⟨s, hs, rfl⟩
    | _ => exact ofJson?_of_names (by decide) h

theorem Verdict.ofJson?_eq_some_iff {v : Value} {verdict : Verdict} :
    ofJson? v = some verdict ↔ verdict.EncodedBy v := by
  constructor
  · intro h
    unfold ofJson? at h
    split at h
    · rename_i mode hv
      obtain ⟨m, hm, rfl⟩ :=
        (Value.name?_bind_map_find?_eq_some_iff _ SuccessMode.find?_name).mp h
      exact ⟨mode, hv, hm⟩
    · rename_i diagnostic hv
      obtain ⟨d, hd, rfl⟩ := Option.map_eq_some_iff.mp h
      exact ⟨diagnostic, hv, Diagnostic.ofJson?_eq_some_iff.mp hd⟩
    · cases h
  · intro h
    cases verdict with
    | success m =>
      obtain ⟨mode, hv, hm⟩ := h
      simp only [ofJson?, show v.variant? = _ from hv]
      exact (Value.name?_bind_map_find?_eq_some_iff _ SuccessMode.find?_name).mpr ⟨m, hm, rfl⟩
    | diagnostic d =>
      obtain ⟨diagnostic, hv, hd⟩ := h
      simp only [ofJson?, show v.variant? = _ from hv, Diagnostic.ofJson?_eq_some_iff.mpr hd,
        Option.map_some]

theorem Warnings.ofJson?_eq_some_iff {v : Value} {ws : Warnings} :
    ofJson? v = some ws ↔ ws.EncodedBy v := by
  have hname (item : Value) (w : Warning) :
      item.name?.bind Warning.ofName? = some w ↔ item.Names w.name :=
    Value.name?_bind_find?_eq_some_iff Warning.ofName?_name
  simp only [ofJson?, EncodedBy, Option.bind_eq_some_iff, Option.map_eq_some_iff,
    Value.items?_eq_some_iff, mapM_eq_some_iff, hname, exists_and_left]

/-- A value is read as an outcome exactly when it is a record of the outcome. -/
theorem Outcome.ofJson?_eq_some_iff {v : Value} {o : Outcome} :
    ofJson? v = some o ↔ o.EncodedBy v := by
  have hrecord (verdict warnings : Value) :
      v.fields? ["verdict", "warnings"] .skipped = some [some verdict, some warnings] ↔
        v.IsRecord [("verdict", some verdict), ("warnings", some warnings)] :=
    Value.fields?_eq_some_iff [("verdict", some verdict), ("warnings", some warnings)] (by simp)
  constructor
  · intro h
    unfold ofJson? at h
    split at h
    · rename_i verdict warnings hv
      simp only [Option.bind_eq_bind, Option.bind_eq_some_iff, Option.pure_def,
        Verdict.ofJson?_eq_some_iff, Warnings.ofJson?_eq_some_iff] at h
      obtain ⟨d, hd, ws, hws, he⟩ := h
      cases he
      exact ⟨verdict, warnings, (hrecord ..).mp hv, hd, hws⟩
    · cases h
  · rintro ⟨verdict, warnings, hv, hd, hws⟩
    rw [ofJson?, (hrecord ..).mpr hv]
    simp [Verdict.ofJson?_eq_some_iff.mpr hd, Warnings.ofJson?_eq_some_iff.mpr hws]

theorem Diagnostic.encodedBy_toJson (d : Diagnostic) : d.EncodedBy d.toJson := by
  cases d with
  | staticInconsistent s => exact ⟨_, Value.tagged_object _ _, Value.names_text s.name⟩
  | gnuInlineInconsistent s => exact ⟨_, Value.tagged_object _ _, Value.names_text s.name⟩
  | _ => exact Value.names_text _

theorem Diagnostic.plain_toJson (d : Diagnostic) : d.toJson.Plain := by
  have hstyled (kind style : String) : (Value.object [(pieces kind, .text style)]).Plain :=
    Value.plain_object [(kind, .text style)] (List.forall_mem_singleton.mpr (Value.plain_text style))
  cases d with
  | staticInconsistent s => exact hstyled "static_inconsistent" s.name
  | gnuInlineInconsistent s => exact hstyled "gnu_inline_inconsistent" s.name
  | _ => exact Value.plain_text _

theorem Verdict.encodedBy_toJson (v : Verdict) : v.EncodedBy v.toJson := by
  cases v with
  | success m => exact ⟨_, Value.tagged_object _ _, Value.names_text m.name⟩
  | diagnostic d => exact ⟨_, Value.tagged_object _ _, d.encodedBy_toJson⟩

theorem Verdict.plain_toJson (v : Verdict) : v.toJson.Plain := by
  have htagged (kind : String) {content : Value} (h : content.Plain) :
      (Value.object [(pieces kind, content)]).Plain :=
    Value.plain_object [(kind, content)] (List.forall_mem_singleton.mpr h)
  cases v with
  | success m => exact htagged _ (Value.plain_text m.name)
  | diagnostic d => exact htagged _ d.plain_toJson

/-- A row of names as it is. -/
def Warning.row (l : List Warning) : Value :=
  .array (l.map fun w => .text w.name)

theorem Warning.names_row (l : List Warning) :
    List.Forall₂ (fun (item : Value) w => item.Names (name w)) (l.map fun w => .text w.name) l := by
  rw [List.forall₂_map_left_iff, List.forall₂_same]
  exact fun w _ => Value.names_text w.name

theorem Warning.plain_row (l : List Warning) : (row l).Plain := by
  refine Value.plain_array fun v hv => ?_
  obtain ⟨w, -, rfl⟩ := List.mem_map.mp hv
  exact Value.plain_text w.name

theorem Warnings.encodedBy_toJson (ws : Warnings) : ws.EncodedBy ws.toJson :=
  ⟨_, ws.toList, rfl, Warning.names_row ws.toList, ofList_toList ws⟩

namespace Outcome

/-- The record of a verdict and a row of warnings. -/
def listing (verdict : Verdict) (l : List Warning) : Value :=
  .object [(pieces "verdict", verdict.toJson), (pieces "warnings", Warning.row l)]

theorem isRecord_listing (verdict : Verdict) (l : List Warning) :
    (listing verdict l).IsRecord [("verdict", some verdict.toJson), ("warnings", some (Warning.row l))] :=
  Value.isRecord_object [("verdict", verdict.toJson), ("warnings", Warning.row l)]

theorem plain_listing (verdict : Verdict) (l : List Warning) : (listing verdict l).Plain := by
  refine Value.plain_object [("verdict", verdict.toJson), ("warnings", Warning.row l)] ?_
  simp only [List.forall_mem_cons]
  exact ⟨verdict.plain_toJson, Warning.plain_row l, List.forall_mem_nil _⟩

/-- An outcome is encoded as the record of its verdict and of its warnings, each once and in order. -/
theorem toJson_eq_listing (o : Outcome) : o.toJson = listing o.verdict o.warnings.toList := rfl

theorem encodedBy_toJson (o : Outcome) : o.EncodedBy o.toJson :=
  ⟨_, _, isRecord_listing o.verdict o.warnings.toList, o.verdict.encodedBy_toJson,
    o.warnings.encodedBy_toJson⟩

theorem plain_toJson (o : Outcome) : o.toJson.Plain :=
  plain_listing o.verdict o.warnings.toList

/-- The texts that are read as an outcome. -/
theorem ofEncoded?_eq_some_iff {s : String} {o : Outcome} :
    ofEncoded? s = some o ↔ ∃ v, Spells v.tokens s.toList ∧ o.EncodedBy v := by
  simp only [ofEncoded?, Option.bind_eq_some_iff, Value.ofString?, Value.ofChars?_eq_some_iff,
    ofJson?_eq_some_iff]

theorem ofEncoded?_encoded (o : Outcome) : ofEncoded? o.encoded = some o := by
  rw [ofEncoded?, encoded, encodedChars, ← Value.compact, Value.ofString?_compact o.plain_toJson,
    Option.bind_some]
  exact ofJson?_eq_some_iff.mpr o.encodedBy_toJson

/-- No two outcomes have the same encoding. -/
theorem encodedChars_injective : Function.Injective encodedChars := by
  intro o o' h
  have hread : some o = some o' := by
    rw [← ofEncoded?_encoded o, encoded, h, ← encoded, ofEncoded?_encoded o']
  exact Option.some.inj hread

theorem newline_not_mem_encodedChars (o : Outcome) : '\n' ∉ o.encodedChars :=
  o.toJson.newline_not_mem_compactChars

end Outcome

end InlineLinkage
