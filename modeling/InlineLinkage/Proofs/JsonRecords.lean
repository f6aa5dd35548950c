import InlineLinkage.Json.Decode
import Mathlib.Tactic

/-!
# Records, names and rows in JSON

What the typed decoders accept, said without them. A record is an object with its fields in any order
among members that are no fields, or the array of its fields. A name is a string, or the only key of an
object with `null` behind it. A row is an array whose items are decoded one by one.
-/
namespace InlineLinkage.Json

variable {α β : Type}

theorem pieceChars?_map_char (cs : List Char) : pieceChars? (cs.map .char) = some cs := by
  induction cs with
  | nil => rfl
  | cons c cs ih => rw [List.map_cons, pieceChars?, ih, Option.map_some]

@[simp] theorem piecesText?_pieces (s : String) : piecesText? (pieces s) = some s := by
  rw [piecesText?, pieces, pieceChars?_map_char, Option.map_some, String.ofList_toList]

/-- A choice is made by a name, in one of two ways. -/
def Value.Names (v : Value) (name : String) : Prop :=
  ∃ s, piecesText? s = some name ∧ (v = .string s ∨ v = .object [(s, .null)])

theorem Value.variant?_eq_some_iff {v : Value} {name : String} {content : Option Value} :
    v.variant? = some (name, content) ↔
      ∃ s, piecesText? s = some name ∧
        ((v = .string s ∧ content = none) ∨ ∃ w, v = .object [(s, w)] ∧ content = some w) := by
  constructor
  · intro h
    unfold variant? at h
    split at h
    · rename_i s
      obtain ⟨n, hn, he⟩ := Option.map_eq_some_iff.mp h
      cases he
      exact ⟨s, hn, .inl ⟨rfl, rfl⟩⟩
    · rename_i s w
      obtain ⟨n, hn, he⟩ := Option.map_eq_some_iff.mp h
      cases he
      exact ⟨s, hn, .inr ⟨w, rfl, rfl⟩⟩
    · cases h
  · rintro ⟨s, hs, ⟨rfl, rfl⟩ | ⟨w, rfl, rfl⟩⟩
    · simp [variant?, hs]
    · simp [variant?, hs]

theorem Value.name?_eq_some_iff {v : Value} {name : String} : v.name? = some name ↔ v.Names name := by
  constructor
  · intro h
    unfold name? at h
    split at h
    · rename_i n hv
      cases h
      obtain ⟨s, hs, ⟨rfl, -⟩ | ⟨w, -, hw⟩⟩ := variant?_eq_some_iff.mp hv
      · exact ⟨s, hs, .inl rfl⟩
      · cases hw
    · rename_i n hv
      cases h
      obtain ⟨s, hs, ⟨-, hw⟩ | ⟨w, rfl, hw⟩⟩ := variant?_eq_some_iff.mp hv
      · cases hw
      · cases hw
        exact ⟨s, hs, .inr rfl⟩
    · cases h
  · rintro ⟨s, hs, rfl | rfl⟩
    · simp [name?, variant?, hs]
    · simp [name?, variant?, hs]

theorem Value.names_text (s : String) : (text s).Names s :=
  ⟨pieces s, piecesText?_pieces s, .inl rfl⟩

/-- A name is looked up among all that have one. -/
theorem Value.name?_bind_find?_eq_some_iff {all : List α} {name : α → String}
    (h : ∀ a, (all.find? fun b => name b == name a) = some a) {v : Value} {a : α} :
    (v.name?.bind fun n => all.find? fun b => name b == n) = some a ↔ v.Names (name a) := by
  simp only [Option.bind_eq_some_iff, name?_eq_some_iff]
  constructor
  · rintro ⟨n, hn, ha⟩
    obtain rfl : name a = n := by simpa using List.find?_some ha
    exact hn
  · exact fun hn => ⟨name a, hn, h a⟩

/-- What is chosen by name may be wrapped up. -/
theorem Value.name?_bind_map_find?_eq_some_iff {all : List α} {name : α → String} (wrap : α → β)
    (h : ∀ a, (all.find? fun b => name b == name a) = some a) {v : Value} {b : β} :
    (v.name?.bind fun n => (all.find? fun b => name b == n).map wrap) = some b ↔
      ∃ a, v.Names (name a) ∧ wrap a = b := by
  have hmap : (v.name?.bind fun n => (all.find? fun b => name b == n).map wrap) =
      (v.name?.bind fun n => all.find? fun b => name b == n).map wrap := by
    cases v.name? <;> rfl
  simp only [hmap, Option.map_eq_some_iff, name?_bind_find?_eq_some_iff h]

theorem mapM_eq_some_iff {f : α → Option β} {l : List α} {bs : List β} :
    l.mapM f = some bs ↔ List.Forall₂ (fun a b => f a = some b) l bs := by
  induction l generalizing bs with
  | nil => cases bs <;> simp
  | cons a l ih =>
    rw [List.mapM_cons]
    simp only [Option.bind_eq_bind, Option.bind_eq_some_iff, Option.pure_def, Option.some.injEq, ih]
    constructor
    · rintro ⟨b, hb, bs, hbs, rfl⟩
      exact .cons hb hbs
    · intro h
      cases h with
      | cons hb hbs => exact ⟨_, hb, _, hbs, rfl⟩

theorem Value.items?_eq_some_iff {v : Value} {items : List Value} :
    v.items? = some items ↔ v = .array items := by
  cases v <;> simp [items?]

/-- The members for the fields that have a value. -/
def givenMembers (fields : List (String × Option Value)) : List (String × Value) :=
  fields.flatMap fun f => f.2.toList.map fun v => (f.1, v)

/-- A record with these values under the names of its fields. A field without a value is missing. -/
inductive Value.IsRecord (fields : List (String × Option Value)) : Value → Prop where
  | object {members : List (List Piece × Value)} {named others : List (String × Value)}
      (hnamed : namedMembers? members = some named)
      (hperm : named.Perm (givenMembers fields ++ others))
      (hothers : ∀ m ∈ others, m.1 ∉ fields.map Prod.fst) : IsRecord fields (.object members)
  | array {items : List Value} {missing : ℕ}
      (hitems : fields.map Prod.snd = items.map some ++ List.replicate missing none) :
      IsRecord fields (.array items)

theorem field?_eq_some_iff {members : List (String × Value)} {name : String} {v : Option Value} :
    field? members name = some v ↔
      (members.filter fun m => m.1 == name) = v.toList.map fun v => (name, v) := by
  have hname : ∀ m ∈ members.filter fun m => m.1 == name, m.1 = name := by
    intro m hm
    exact beq_iff_eq.mp (List.mem_filter.mp hm).2
  unfold field?
  split
  · rename_i hnone
    cases v <;> simp [hnone]
  · rename_i m hone
    rw [hone]
    obtain rfl : m.1 = name := hname m (by simp [hone])
    cases v <;> simp [Prod.ext_iff]
  · rename_i hzero hone
    refine iff_of_false (by simp) ?_
    intro h
    cases v with
    | none => exact hzero h
    | some v => exact hone (name, v) h

theorem name_of_mem_givenMembers {fields : List (String × Option Value)} {m : String × Value}
    (hm : m ∈ givenMembers fields) : m.1 ∈ fields.map Prod.fst := by
  obtain ⟨f, hf, hm⟩ := List.mem_flatMap.mp hm
  obtain ⟨v, -, rfl⟩ := List.mem_map.mp hm
  exact List.mem_map_of_mem hf

theorem filter_eq_nil_of_name {members : List (String × Value)} {names : List String} {name : String}
    (h : ∀ m ∈ members, m.1 ∈ names) (hname : name ∉ names) :
    (members.filter fun m => m.1 == name) = [] := by
  refine List.filter_eq_nil_iff.mpr fun m hm he => hname ?_
  rw [← beq_iff_eq.mp he]
  exact h m hm

theorem filter_toList (name : String) (v : Option Value) :
    ((v.toList.map fun v => (name, v)).filter fun m => m.1 == name) =
      v.toList.map fun v => (name, v) := by
  cases v <;> simp

theorem filter_givenMembers {fields : List (String × Option Value)}
    (hn : (fields.map Prod.fst).Nodup) {f : String × Option Value} (hf : f ∈ fields) :
    ((givenMembers fields).filter fun m => m.1 == f.1) = f.2.toList.map fun v => (f.1, v) := by
  induction fields with
  | nil => cases hf
  | cons g fields ih =>
    obtain ⟨hg, hn⟩ := List.nodup_cons.mp hn
    have hcons : givenMembers (g :: fields) = (g.2.toList.map fun v => (g.1, v)) ++ givenMembers fields :=
      rfl
    rw [hcons, List.filter_append]
    obtain rfl | hf := List.mem_cons.mp hf
    · rw [filter_toList, filter_eq_nil_of_name (fun m => name_of_mem_givenMembers) hg, List.append_nil]
    · have hne : g.1 ≠ f.1 := by
        rintro he
        exact hg (he ▸ List.mem_map_of_mem hf)
      have hfirst : ∀ m ∈ g.2.toList.map fun v => (g.1, v), m.1 ∈ [g.1] := by
        simp
      rw [filter_eq_nil_of_name hfirst (by simpa using hne.symm), List.nil_append, ih hn hf]

/-- Members are sorted out by the names of the fields. -/
theorem perm_givenMembers {fields : List (String × Option Value)} (hn : (fields.map Prod.fst).Nodup)
    {named : List (String × Value)}
    (h : ∀ f ∈ fields, (named.filter fun m => m.1 == f.1) = f.2.toList.map fun v => (f.1, v)) :
    named.Perm (givenMembers fields ++ named.filter fun m => m.1 ∉ fields.map Prod.fst) := by
  induction fields with
  | nil => simp [givenMembers]
  | cons f fields ih =>
    obtain ⟨hf, hn⟩ := List.nodup_cons.mp hn
    obtain ⟨hfirst, h⟩ := List.forall_mem_cons.mp h
    -- What is left for the later fields is sorted once more, by the name of the first.
    let others := named.filter fun m => m.1 ∉ fields.map Prod.fst
    have hsplit : others.Perm ((others.filter fun m => m.1 == f.1) ++
        others.filter fun m => !(m.1 == f.1)) :=
      (List.filter_append_perm (fun m => m.1 == f.1) others).symm
    have hhere : (others.filter fun m => m.1 == f.1) = f.2.toList.map fun v => (f.1, v) := by
      rw [← hfirst, List.filter_filter]
      refine List.filter_congr fun m _ => ?_
      by_cases hm : m.1 = f.1
      · simp [hm, hf]
      · simp [hm]
    have hrest : (others.filter fun m => !(m.1 == f.1)) =
        named.filter fun m => m.1 ∉ (f :: fields).map Prod.fst := by
      rw [List.filter_filter]
      refine List.filter_congr fun m _ => ?_
      simp only [List.map_cons, List.mem_cons, not_or, Bool.decide_and, decide_not]
      rfl
    rw [hhere, hrest] at hsplit
    have hgiven : givenMembers (f :: fields) =
        (f.2.toList.map fun v => (f.1, v)) ++ givenMembers fields := rfl
    rw [hgiven, List.append_assoc]
    exact ((ih hn h).trans (hsplit.append_left _)).trans (List.perm_append_comm_assoc _ _ _)

/-- Each field has its one member or none, exactly if the fields are there in some order and all else
has other names. -/
theorem fields_found_iff {fields : List (String × Option Value)} (hn : (fields.map Prod.fst).Nodup)
    {named : List (String × Value)} :
    (∀ f ∈ fields, field? named f.1 = some f.2) ↔
      ∃ others, named.Perm (givenMembers fields ++ others) ∧
        ∀ m ∈ others, m.1 ∉ fields.map Prod.fst := by
  simp only [field?_eq_some_iff]
  constructor
  · intro h
    refine ⟨_, perm_givenMembers hn h, fun m hm => ?_⟩
    simpa using (List.mem_filter.mp hm).2
  · rintro ⟨others, hperm, hothers⟩ f hf
    have hnone : (others.filter fun m => m.1 == f.1) = [] := by
      refine List.filter_eq_nil_iff.mpr fun m hm he => hothers m hm ?_
      rw [beq_iff_eq.mp he]
      exact List.mem_map_of_mem hf
    have hfilter := hperm.filter fun m => m.1 == f.1
    rw [List.filter_append, filter_givenMembers hn hf, hnone, List.append_nil] at hfilter
    cases hv : f.2 with
    | none =>
      rw [hv] at hfilter
      exact hfilter.eq_nil
    | some v =>
      rw [hv] at hfilter
      exact hfilter.eq_singleton

theorem mapM_fst_eq_some_iff {f : α → Option β} {l : List (α × β)} :
    (l.map Prod.fst).mapM f = some (l.map Prod.snd) ↔ ∀ p ∈ l, f p.1 = some p.2 := by
  rw [mapM_eq_some_iff, List.forall₂_map_left_iff, List.forall₂_map_right_iff, List.forall₂_same]

theorem Value.fields?_object {members : List (List Piece × Value)} {names : List String} :
    (object members).fields? names .skipped =
      (namedMembers? members).bind fun named => names.mapM (field? named) := by
  simp [fields?]

/-- The decoder finds the fields of a record, and of nothing else. -/
theorem Value.fields?_eq_some_iff (fields : List (String × Option Value))
    (hn : (fields.map Prod.fst).Nodup) {v : Value} :
    v.fields? (fields.map Prod.fst) .skipped = some (fields.map Prod.snd) ↔ v.IsRecord fields := by
  constructor
  · intro h
    cases v with
    | object members =>
      rw [fields?_object, Option.bind_eq_some_iff] at h
      obtain ⟨named, hnamed, h⟩ := h
      obtain ⟨others, hperm, hothers⟩ := (fields_found_iff hn).mp (mapM_fst_eq_some_iff.mp h)
      exact .object hnamed hperm hothers
    | array items =>
      by_cases hl : (fields.map Prod.fst).length < items.length
      · rw [fields?, if_pos hl] at h
        cases h
      · rw [fields?, if_neg hl] at h
        exact .array (Option.some.inj h).symm
    | _ => cases h
  · intro h
    cases h with
    | object hnamed hperm hothers =>
      rw [fields?_object, hnamed, Option.bind_some, mapM_fst_eq_some_iff]
      exact (fields_found_iff hn).mpr ⟨_, hperm, hothers⟩
    | array hitems =>
      rename_i items missing
      have hl := congrArg List.length hitems
      simp only [List.length_map, List.length_append, List.length_replicate] at hl
      have hmissing : (fields.map Prod.fst).length - items.length = missing := by
        rw [List.length_map]
        omega
      rw [fields?, if_neg (by rw [List.length_map]; omega), hmissing, hitems]

theorem namedMembers?_map_pieces (members : List (String × Value)) :
    namedMembers? (members.map fun m => (pieces m.1, m.2)) = some members := by
  induction members with
  | nil => rfl
  | cons m members ih => simp [namedMembers?, ih]

/-- An object with plain names is the record of its members. -/
theorem Value.isRecord_object (members : List (String × Value)) :
    (object (members.map fun m => (pieces m.1, m.2))).IsRecord
      (members.map fun m => (m.1, some m.2)) := by
  have hgiven : givenMembers (members.map fun m => (m.1, some m.2)) = members := by
    induction members with
    | nil => rfl
    | cons m members ih =>
      rw [List.map_cons, givenMembers, List.flatMap_cons, ← givenMembers, ih]
      rfl
  have hperm : members.Perm (givenMembers (members.map fun m => (m.1, some m.2)) ++ []) := by
    rw [hgiven, List.append_nil]
  exact .object (namedMembers?_map_pieces members) hperm (by simp)

end InlineLinkage.Json
