import InlineLinkage.Case.Encoding
import InlineLinkage.Proofs.CompactJson
import InlineLinkage.Proofs.JsonRecords

/-!
# Encoded cases read back

The encoding of a case is one of many texts that are read as it. White space, the order of fields, members
that are no fields and the two ways to leave out a forward declaration make no difference, and a second
encoding shows none of them. No forward declaration and one without qualifiers are encoded differently.
-/
namespace InlineLinkage

open Json

/-- A row of names is read as the qualifiers with these names. -/
def Qualifiers.EncodedBy (qs : Qualifiers) (v : Value) : Prop :=
  ∃ items, v = .array items ∧ List.Forall₂ (fun item q => item.Names q.name) items qs

theorem Qualifiers.ofJson?_eq_some_iff {v : Value} {qs : Qualifiers} :
    ofJson? v = some qs ↔ qs.EncodedBy v := by
  have hname (item : Value) (q : Qualifier) :
      item.name?.bind Qualifier.ofName? = some q ↔ item.Names q.name :=
    Value.name?_bind_find?_eq_some_iff Qualifier.ofName?_name
  simp only [ofJson?, EncodedBy, Option.bind_eq_some_iff, Value.items?_eq_some_iff, mapM_eq_some_iff,
    hname]

theorem Qualifiers.encodedBy_toJson (qs : Qualifiers) : qs.EncodedBy qs.toJson := by
  refine ⟨_, rfl, ?_⟩
  rw [List.forall₂_map_left_iff, List.forall₂_same]
  exact fun q _ => Value.names_text q.name

/-- A forward declaration that is left out has no field or `null` in it. -/
def Declarations.PrototypeEncodedBy (prototype : Option Qualifiers) (v : Option Value) : Prop :=
  match prototype with
  | none => v = none ∨ v = some .null
  | some qs => ∃ w, v = some w ∧ qs.EncodedBy w

/-- A record of the two rows. -/
def Declarations.EncodedBy (d : Declarations) (v : Value) : Prop :=
  ∃ prototype definition,
    v.IsRecord [("prototype_qualifiers", prototype), ("definition_qualifiers", some definition)] ∧
      PrototypeEncodedBy d.prototype prototype ∧ d.definition.EncodedBy definition

/-- A record of declarations and three names. -/
def Case.EncodedBy (c : Case) (v : Value) : Prop :=
  ∃ declarations compiler dialect level,
    v.IsRecord [("inlining", some declarations), ("compiler", some compiler),
      ("language", some dialect), ("optimization", some level)] ∧
    c.declarations.EncodedBy declarations ∧ compiler.Names c.compiler.name ∧
      dialect.Names c.dialect.name ∧ level.Names c.level.name

theorem Declarations.optional?_eq_some_iff {prototype : Option Qualifiers} {v : Option Value} :
    optional? Qualifiers.ofJson? v = some prototype ↔ PrototypeEncodedBy prototype v := by
  unfold optional? PrototypeEncodedBy
  split
  · cases prototype <;> simp
  · cases prototype with
    | none => simp
    | some qs =>
      refine iff_of_false (by simp) ?_
      rintro ⟨w, hw, items, rfl, -⟩
      cases hw
  · rename_i w hnull
    cases prototype with
    | none => simp_all
    | some qs => simp [Qualifiers.ofJson?_eq_some_iff]

theorem Declarations.ofJson?_eq_some_iff {v : Value} {d : Declarations} :
    ofJson? v = some d ↔ d.EncodedBy v := by
  have hrecord (prototype : Option Value) (definition : Value) :
      v.fields? ["prototype_qualifiers", "definition_qualifiers"] .skipped =
          some [prototype, some definition] ↔
        v.IsRecord [("prototype_qualifiers", prototype), ("definition_qualifiers", some definition)] :=
    Value.fields?_eq_some_iff
      [("prototype_qualifiers", prototype), ("definition_qualifiers", some definition)] (by simp)
  constructor
  · intro h
    unfold ofJson? at h
    split at h
    · rename_i prototype definition hv
      simp only [Option.bind_eq_bind, Option.bind_eq_some_iff, Option.pure_def,
        optional?_eq_some_iff, Qualifiers.ofJson?_eq_some_iff] at h
      obtain ⟨p, hp, q, hq, he⟩ := h
      cases he
      exact ⟨prototype, definition, (hrecord ..).mp hv, hp, hq⟩
    · cases h
  · rintro ⟨prototype, definition, hv, hp, hq⟩
    rw [ofJson?, (hrecord ..).mpr hv]
    simp [optional?_eq_some_iff.mpr hp, Qualifiers.ofJson?_eq_some_iff.mpr hq]

/-- A value is read as a case exactly when it is a record of the case. -/
theorem Case.ofJson?_eq_some_iff {v : Value} {c : Case} : ofJson? v = some c ↔ c.EncodedBy v := by
  have hrecord (declarations compiler dialect level : Value) :
      v.fields? ["inlining", "compiler", "language", "optimization"] .skipped =
          some [some declarations, some compiler, some dialect, some level] ↔
        v.IsRecord [("inlining", some declarations), ("compiler", some compiler),
          ("language", some dialect), ("optimization", some level)] :=
    Value.fields?_eq_some_iff
      [("inlining", some declarations), ("compiler", some compiler), ("language", some dialect),
        ("optimization", some level)] (by simp)
  have hcompiler (w : Value) (k : Compiler) :
      w.name?.bind Compiler.ofName? = some k ↔ w.Names k.name :=
    Value.name?_bind_find?_eq_some_iff Compiler.ofName?_name
  have hdialect (w : Value) (d : Dialect) :
      w.name?.bind Dialect.ofName? = some d ↔ w.Names d.name :=
    Value.name?_bind_find?_eq_some_iff Dialect.ofName?_name
  have hlevel (w : Value) (l : Level) : w.name?.bind Level.ofName? = some l ↔ w.Names l.name :=
    Value.name?_bind_find?_eq_some_iff Level.ofName?_name
  constructor
  · intro h
    unfold ofJson? at h
    split at h
    · rename_i declarations compiler dialect level hv
      simp only [Option.bind_eq_bind, Option.bind_eq_some_iff, Option.pure_def,
        Declarations.ofJson?_eq_some_iff, hcompiler, hdialect, hlevel] at h
      obtain ⟨d, hd, k, hk, l, hl, o, ho, he⟩ := h
      cases he
      exact ⟨declarations, compiler, dialect, level, (hrecord ..).mp hv, hd, hk, hl, ho⟩
    · cases h
  · rintro ⟨declarations, compiler, dialect, level, hv, hd, hk, hl, ho⟩
    rw [ofJson?, (hrecord ..).mpr hv]
    simp [Declarations.ofJson?_eq_some_iff.mpr hd, (hcompiler ..).mpr hk, (hdialect ..).mpr hl,
      (hlevel ..).mpr ho]

theorem Qualifiers.plain_toJson (qs : Qualifiers) : qs.toJson.Plain := by
  refine Value.plain_array fun v hv => ?_
  obtain ⟨q, -, rfl⟩ := List.mem_map.mp hv
  exact Value.plain_text q.name

namespace Declarations

theorem encodedBy_toJson (d : Declarations) : d.EncodedBy d.toJson := by
  let prototype := d.prototype.elim .null Qualifiers.toJson
  let definition := d.definition.toJson
  have hprototype : PrototypeEncodedBy d.prototype (some prototype) := by
    unfold PrototypeEncodedBy prototype
    cases d.prototype with
    | none => exact .inr rfl
    | some qs => exact ⟨_, rfl, qs.encodedBy_toJson⟩
  exact ⟨some prototype, definition,
    Value.isRecord_object [("prototype_qualifiers", prototype), ("definition_qualifiers", definition)],
    hprototype, d.definition.encodedBy_toJson⟩

theorem plain_toJson (d : Declarations) : d.toJson.Plain := by
  have hprototype : (d.prototype.elim .null Qualifiers.toJson).Plain := by
    cases d.prototype with
    | none => exact Value.plain_null
    | some qs => exact qs.plain_toJson
  refine Value.plain_object [("prototype_qualifiers", d.prototype.elim .null Qualifiers.toJson),
    ("definition_qualifiers", d.definition.toJson)] ?_
  simp only [List.forall_mem_cons]
  exact ⟨hprototype, d.definition.plain_toJson, by simp⟩

end Declarations

namespace Case

theorem encodedBy_toJson (c : Case) : c.EncodedBy c.toJson :=
  ⟨c.declarations.toJson, .text c.compiler.name, .text c.dialect.name, .text c.level.name,
    Value.isRecord_object [("inlining", c.declarations.toJson), ("compiler", .text c.compiler.name),
      ("language", .text c.dialect.name), ("optimization", .text c.level.name)],
    c.declarations.encodedBy_toJson, Value.names_text _, Value.names_text _, Value.names_text _⟩

theorem plain_toJson (c : Case) : c.toJson.Plain := by
  refine Value.plain_object [("inlining", c.declarations.toJson),
    ("compiler", .text c.compiler.name), ("language", .text c.dialect.name),
    ("optimization", .text c.level.name)] ?_
  simp only [List.forall_mem_cons]
  exact ⟨c.declarations.plain_toJson, Value.plain_text _, Value.plain_text _, Value.plain_text _,
    by simp⟩

/-- The texts that are read as a case. -/
theorem ofEncoded?_eq_some_iff {s : String} {c : Case} :
    ofEncoded? s = some c ↔ ∃ v, Spells v.tokens s.toList ∧ c.EncodedBy v := by
  simp only [ofEncoded?, Option.bind_eq_some_iff, Value.ofString?, Value.ofChars?_eq_some_iff,
    ofJson?_eq_some_iff]

theorem ofEncoded?_encoded (c : Case) : ofEncoded? c.encoded = some c := by
  rw [ofEncoded?, encoded, Value.ofString?_compact c.plain_toJson, Option.bind_some]
  exact ofJson?_eq_some_iff.mpr c.encodedBy_toJson

theorem encoded_inj {c c' : Case} : c.encoded = c'.encoded ↔ c = c' := by
  constructor
  · intro h
    have hread : some c = some c' := by rw [← ofEncoded?_encoded c, h, ofEncoded?_encoded c']
    exact Option.some.inj hread
  · rintro rfl
    rfl

/-- A case is read back from its encoding, so no other has the same one. A text is read as a case exactly
when, white space apart, it is a record of the case, and then encoding and reading change nothing more. -/
theorem encoding_reads_back :
    (∀ c : Case, ofEncoded? c.encoded = some c) ∧
      (∀ c c' : Case, c.encoded = c'.encoded ↔ c = c') ∧
      (∀ definition compiler dialect level,
        (⟨⟨none, definition⟩, compiler, dialect, level⟩ : Case).encoded ≠
          (⟨⟨some [], definition⟩, compiler, dialect, level⟩ : Case).encoded) ∧
      (∀ (s : String) (c : Case),
        ofEncoded? s = some c ↔ ∃ v, Spells v.tokens s.toList ∧ c.EncodedBy v) ∧
      (∀ (s : String) (c : Case), ofEncoded? s = some c →
        ofEncoded? c.encoded = some c ∧ (ofEncoded? c.encoded).map encoded = some c.encoded) := by
  refine ⟨ofEncoded?_encoded, fun _ _ => encoded_inj, ?_, fun _ _ => ofEncoded?_eq_some_iff, ?_⟩
  · intro definition compiler dialect level h
    have hcase := encoded_inj.mp h
    injection hcase with hdeclarations
    injection hdeclarations with hprototype
    cases hprototype
  · intro s c _
    have hread := ofEncoded?_encoded c
    exact ⟨hread, by rw [hread, Option.map_some]⟩

/-- A text with its fields in another order, with a member that is no field and without the field of the
forward declaration. -/
theorem encoding_reads_back_spaced :
    let s := "\x7b\"optimization\": \"O2\", \"note\": [1, 2.5e3],\n \"language\": \"Cxx11\", " ++
      "\"compiler\": \"clang\", \"inlining\": \x7b\"definition_qualifiers\": [\"static\"]\x7d\x7d"
    let c : Case := ⟨⟨none, [.staticStorage]⟩, .clang, .cxx11, .o2⟩
    ofEncoded? s = some c ∧ ofEncoded? c.encoded = some c ∧
      (ofEncoded? c.encoded).map encoded = some c.encoded := by
  intro s c
  have hs : ofEncoded? s = some c := by decide +kernel
  exact ⟨hs, encoding_reads_back.2.2.2.2 s c hs⟩

end Case

end InlineLinkage
