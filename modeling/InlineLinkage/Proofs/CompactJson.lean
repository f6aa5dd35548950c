import InlineLinkage.Proofs.JsonReading

/-!
# Compact JSON texts

The compact text of a value stands on one line. Where no numbers and no halves of characters occur, as in
all that is encoded here, it is read as the value again, so it belongs to no other.
-/
namespace InlineLinkage.Json

open Text

theorem newline_not_mem_map_digitChar (ds : List ℕ) : '\n' ∉ ds.map Nat.digitChar := by
  intro h
  obtain ⟨d, -, hd⟩ := List.mem_map.mp h
  exact Nat.digitChar_ne '\n' rfl hd

theorem newline_not_mem_twoHexChars (n : ℕ) : '\n' ∉ twoHexChars n := by
  have := newline_not_mem_map_digitChar [n / 16 % 16, n % 16]
  exact this

theorem Piece.newline_not_mem_chars (p : Piece) : '\n' ∉ p.chars := by
  cases p with
  | surrogate n =>
    simp only [chars, List.mem_append, not_or]
    exact ⟨⟨by decide, newline_not_mem_twoHexChars _⟩, newline_not_mem_twoHexChars _⟩
  | char c =>
    have hnumber : '\n' ∉ ['\\', 'u', '0', '0'] ++ twoHexChars c.toNat :=
      List.not_mem_append (by decide) (newline_not_mem_twoHexChars _)
    simp only [chars]
    split_ifs with _ _ hc
    any_goals decide
    · exact hnumber
    · exact fun h => hc (List.mem_singleton.mp h).symm

theorem Number.newline_not_mem_chars (n : Number) : '\n' ∉ n.chars := by
  obtain ⟨negative, whole, fraction, exponent⟩ := n
  have hsign (b : Bool) : '\n' ∉ (if b then ['-'] else []) := by cases b <;> decide
  simp only [chars, List.mem_append, not_or]
  refine ⟨⟨⟨hsign negative, newline_not_mem_map_digitChar _⟩, ?_⟩, ?_⟩
  · split
    · exact List.not_mem_nil
    · exact List.not_mem_cons_of_ne_of_not_mem (by decide) (newline_not_mem_map_digitChar _)
  · split
    · exact List.not_mem_nil
    · refine List.not_mem_cons_of_ne_of_not_mem (by decide) ?_
      exact List.not_mem_append (hsign _) (newline_not_mem_map_digitChar _)

theorem Token.newline_not_mem_chars (t : Token) : '\n' ∉ t.chars := by
  cases t with
  | bool b => cases b <;> decide
  | number n => exact n.newline_not_mem_chars
  | string s =>
    have hbody : '\n' ∉ s.flatMap Piece.chars := fun h => by
      obtain ⟨p, -, hp⟩ := List.mem_flatMap.mp h
      exact p.newline_not_mem_chars hp
    exact List.not_mem_append (List.not_mem_cons_of_ne_of_not_mem (by decide) hbody) (by decide)
  | _ => decide

theorem Value.newline_not_mem_compactChars (v : Value) : '\n' ∉ v.compactChars := by
  intro h
  obtain ⟨t, -, ht⟩ := List.mem_flatMap.mp h
  exact t.newline_not_mem_chars ht

theorem hexValue?_digitChar {n : ℕ} (hn : n < 16) : hexValue? (Nat.digitChar n) = some n := by
  interval_cases n <;> decide

/-- What is written for a character is read as that character. -/
theorem piecesFrom_char (read : List Piece) (c : Char) (rest : List Char) :
    piecesFrom read ((Piece.char c).chars ++ rest) = piecesFrom (.char c :: read) rest := by
  simp only [Piece.chars]
  split_ifs with h1 h2 h3 h4 h5 h6 h7 h8
  · subst h1; rfl
  · subst h2; rfl
  · subst h3; rfl
  · subst h4; rfl
  · subst h5; rfl
  · subst h6; rfl
  · subst h7; rfl
  · have hhigh := hexValue?_digitChar (n := c.toNat / 16 % 16) (by omega)
    have hlow := hexValue?_digitChar (n := c.toNat % 16) (by omega)
    have hzero : hexValue? '0' = some 0 := rfl
    have hn : ((0 * 16 + 0) * 16 + c.toNat / 16 % 16) * 16 + c.toNat % 16 = c.toNat := by omega
    simp only [twoHexChars, List.cons_append, List.nil_append]
    rw [piecesFrom, hhigh, hlow, hzero]
    dsimp only
    rw [hn, Piece.ofUnit, if_neg (by omega), Char.ofNat_toNat]
  · rw [List.singleton_append, piecesFrom.eq_def]
    split
    all_goals simp_all

theorem piecesFrom_map_char (cs : List Char) (read : List Piece) (rest : List Char) :
    piecesFrom read ((cs.map Piece.char).flatMap Piece.chars ++ '"' :: rest) =
      some (read.reverse ++ cs.map Piece.char, rest) := by
  induction cs generalizing read with
  | nil => simp [piecesFrom]
  | cons c cs ih =>
    rw [List.map_cons, List.flatMap_cons, List.append_assoc, piecesFrom_char, ih]
    simp

/-- A token without numbers and without halves of characters. -/
inductive Token.Plain : Token → Prop where
  | null : Plain .null
  | bool (b : Bool) : Plain (.bool b)
  | string (s : String) : Plain (.string (pieces s))
  | openArray : Plain .openArray
  | closeArray : Plain .closeArray
  | openObject : Plain .openObject
  | closeObject : Plain .closeObject
  | comma : Plain .comma
  | colon : Plain .colon

theorem token?_chars {t : Token} (ht : t.Plain) (rest : List Char) :
    token? (t.chars ++ rest) = some (t, rest) := by
  cases ht with
  | string s =>
    have h := piecesFrom_map_char s.toList [] rest
    simp only [Token.chars, stringChars, pieces, List.cons_append, List.append_assoc,
      List.nil_append]
    rw [token?, h]
    rfl
  | bool b => cases b <;> rfl
  | _ => rfl

theorem spells_chars {ts : List Token} (h : ∀ t ∈ ts, t.Plain) : Spells ts (ts.flatMap Token.chars) := by
  induction ts with
  | nil => exact .nil
  | cons t ts ih =>
    rw [List.flatMap_cons]
    have ht := token?_chars (h t List.mem_cons_self) (ts.flatMap Token.chars)
    exact .token ht (ih fun u hu => h u (List.mem_cons_of_mem _ hu))

namespace Value

/-- A value without numbers and without halves of characters. -/
def Plain (v : Value) : Prop :=
  ∀ t ∈ v.tokens, t.Plain

theorem plain_text (s : String) : (text s).Plain := by
  intro t ht
  obtain rfl := List.mem_singleton.mp ht
  exact .string s

theorem plain_null : null.Plain := by
  intro t ht
  obtain rfl := List.mem_singleton.mp ht
  exact .null

theorem plain_array {vs : List Value} (h : ∀ v ∈ vs, v.Plain) : (array vs).Plain := by
  intro t ht
  simp only [tokens, itemTokens_eq, List.mem_cons, List.mem_append, List.not_mem_nil, or_false] at ht
  obtain rfl | ht | rfl := ht
  · exact .openArray
  · obtain rfl | ⟨ts, hts, ht⟩ := mem_separated ht
    · exact .comma
    · obtain ⟨v, hv, rfl⟩ := List.mem_map.mp hts
      exact h v hv t ht
  · exact .closeArray

theorem plain_object (members : List (String × Value)) (h : ∀ m ∈ members, m.2.Plain) :
    (object (members.map fun m => (pieces m.1, m.2))).Plain := by
  intro t ht
  simp only [tokens, memberTokens_eq, List.map_map, List.mem_cons, List.mem_append,
    List.not_mem_nil, or_false] at ht
  obtain rfl | ht | rfl := ht
  · exact .openObject
  · obtain rfl | ⟨ts, hts, ht⟩ := mem_separated ht
    · exact .comma
    · obtain ⟨m, hm, rfl⟩ := List.mem_map.mp hts
      simp only [Function.comp_apply, fieldTokens, List.mem_cons] at ht
      obtain rfl | rfl | ht := ht
      · exact .string m.1
      · exact .colon
      · exact h m hm t ht
  · exact .closeObject

/-- The compact text of a value is read as the value. -/
theorem ofString?_compact {v : Value} (hv : v.Plain) : ofString? v.compact = some v := by
  rw [ofString?, compact, String.toList_ofList]
  exact ofChars?_eq_some_iff.mpr (spells_chars hv)

end Value

end InlineLinkage.Json
