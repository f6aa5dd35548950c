import InlineLinkage.Json.Compact
import Mathlib.Tactic

/-!
# The texts that the JSON reader accepts

A text spells a row of tokens when they stand in it one after the other with nothing but white space
around them. The reader takes a text for a value exactly when it spells the tokens with which that
value is written. So texts of one value differ in white space and in the spelling of single tokens only.

What the machine of the reader has taken so far can be told from its state: the frames around hold the values
and keys before the place where it stands. A step adds its token to that, so a finished value is preceded by
nothing but its own tokens. The other way round, the tokens of a value drive the machine past it.
-/
namespace InlineLinkage.Json

open Text

/-- The tokens stand in the text in this order, with white space anywhere around them. -/
inductive Spells : List Token → List Char → Prop where
  | nil : Spells [] []
  | space {c : Char} {s : List Char} {ts : List Token} (hc : isSpace c = true) (h : Spells ts s) :
      Spells ts (c :: s)
  | token {t : Token} {ts : List Token} {s rest : List Char} (ht : token? s = some (t, rest))
      (h : Spells ts rest) : Spells (t :: ts) s

theorem length_of_piecesFrom {read ps : List Piece} {s rest : List Char}
    (h : piecesFrom read s = some (ps, rest)) : rest.length < s.length := by
  fun_induction piecesFrom read s with
  | case1 => cases h
  | case2 read rest' =>
    cases h
    simp
  | case3 read a b c d rest' na hna nb hnb nc hnc nd hnd ih =>
    have := ih h
    simp only [List.length_cons]
    omega
  | case4 => cases h
  | case5 read c rest' hu e he ih =>
    have := ih h
    simp only [List.length_cons]
    omega
  | case6 => cases h
  | case7 => cases h
  | case8 read c rest' h1 h2 h3 hc ih =>
    have := ih h
    simp only [List.length_cons]
    omega

theorem length_digitsFrom_le (read : List ℕ) (s : List Char) :
    (digitsFrom read s).2.length ≤ s.length := by
  fun_induction digitsFrom read s with
  | case1 => simp
  | case2 read c rest hc ih =>
    simp only [List.length_cons]
    omega
  | case3 => simp

theorem length_of_someDigits? {s rest : List Char} {ds : List ℕ}
    (h : someDigits? s = some (ds, rest)) : rest.length < s.length := by
  cases s with
  | nil => cases h
  | cons c s =>
    by_cases hc : c.isDigit = true
    · have hle := length_digitsFrom_le [digitValue c] s
      simp only [someDigits?, digitsFrom, if_pos hc] at h
      split at h
      · cases h
      · rename_i heq
        cases h
        rw [heq] at hle
        exact Nat.lt_succ_of_le hle
    · simp only [someDigits?, digitsFrom, if_neg hc] at h
      cases h

theorem length_of_whole? {s rest : List Char} {ds : List ℕ} (h : whole? s = some (ds, rest)) :
    rest.length < s.length := by
  unfold whole? at h
  split at h
  · cases h
  · exact length_of_someDigits? h

theorem length_of_fraction? {s rest : List Char} {ds : List ℕ} (h : fraction? s = some (ds, rest)) :
    rest.length ≤ s.length := by
  unfold fraction? at h
  split at h
  · have := length_of_someDigits? h
    simp only [List.length_cons]
    omega
  · cases h
    exact le_rfl

theorem length_of_exponent? {s rest : List Char} {e : Option (Bool × List ℕ)}
    (h : exponent? s = some (e, rest)) : rest.length ≤ s.length := by
  cases s with
  | nil =>
    cases h
    exact le_rfl
  | cons c s =>
    by_cases hc : c = 'e' ∨ c = 'E'
    · simp only [exponent?, if_pos hc] at h
      split at h
      all_goals
        obtain ⟨⟨ds, r⟩, hds, hr⟩ := Option.map_eq_some_iff.mp h
        cases hr
        have hlt := length_of_someDigits? hds
        simp only [List.length_cons] at hlt ⊢
        omega
    · simp only [exponent?, if_neg hc] at h
      cases h
      exact le_rfl

theorem length_of_number? {s rest : List Char} {n : Number} (h : number? s = some (n, rest)) :
    rest.length < s.length := by
  unfold number? at h
  split at h
  rename_i negative unsigned hsign
  have hle : unsigned.length ≤ s.length := by
    split at hsign <;> cases hsign <;> simp
  simp only [Option.bind_eq_bind, Option.bind_eq_some_iff] at h
  obtain ⟨⟨w, s₁⟩, hw, ⟨f, s₂⟩, hf, ⟨e, s₃⟩, he, hrest⟩ := h
  cases hrest
  have hw := length_of_whole? hw
  have hf := length_of_fraction? hf
  have he := length_of_exponent? he
  dsimp only at hf he ⊢
  omega

theorem length_of_token? {s rest : List Char} {t : Token} (h : token? s = some (t, rest)) :
    rest.length < s.length := by
  unfold token? at h
  split at h
  case h_7 =>
    obtain ⟨⟨ps, r⟩, hps, hr⟩ := Option.map_eq_some_iff.mp h
    cases hr
    have := length_of_piecesFrom hps
    simp only [List.length_cons]
    omega
  case h_11 =>
    obtain ⟨⟨n, r⟩, hn, hr⟩ := Option.map_eq_some_iff.mp h
    cases hr
    exact length_of_number? hn
  all_goals
    cases h
    simp only [List.length_cons]
    omega

theorem token?_of_isSpace {c : Char} (hc : isSpace c = true) (s : List Char) :
    token? (c :: s) = none := by
  simp only [isSpace, Bool.or_eq_true, beq_iff_eq] at hc
  rcases hc with ((rfl | rfl) | rfl) | rfl <;> rfl

theorem spells_nil_iff {ts : List Token} : Spells ts [] ↔ ts = [] := by
  constructor
  · intro h
    cases h with
    | nil => rfl
    | token ht => cases ht
  · rintro rfl
    exact .nil

theorem spells_space_iff {c : Char} (hc : isSpace c = true) {ts : List Token} {s : List Char} :
    Spells ts (c :: s) ↔ Spells ts s := by
  constructor
  · intro h
    cases h with
    | space _ h => exact h
    | token ht =>
      rw [token?_of_isSpace hc] at ht
      cases ht
  · exact .space hc

theorem spells_token_iff {c : Char} (hc : ¬ isSpace c = true) {ts : List Token} {s : List Char} :
    Spells ts (c :: s) ↔
      ∃ t rest us, token? (c :: s) = some (t, rest) ∧ Spells us rest ∧ ts = t :: us := by
  constructor
  · intro h
    cases h with
    | space hs => exact absurd hs hc
    | token ht h => exact ⟨_, _, _, ht, h, rfl⟩
  · rintro ⟨t, rest, us, ht, h, rfl⟩
    exact .token ht h

/-- The reader finds the tokens that a text spells, and no others. -/
theorem tokensFrom_eq_some_iff {read out : List Token} {steps : ℕ} {s : List Char}
    (hs : s.length ≤ steps) :
    tokensFrom read steps s = some out ↔ ∃ ts, Spells ts s ∧ out = read.reverse ++ ts := by
  induction steps generalizing read s with
  | zero =>
    obtain rfl := List.eq_nil_of_length_eq_zero (Nat.le_zero.mp hs)
    simp [tokensFrom, spells_nil_iff, eq_comm]
  | succ steps ih =>
    cases s with
    | nil => simp [tokensFrom, spells_nil_iff, eq_comm]
    | cons c s =>
      have hle : s.length ≤ steps := Nat.le_of_succ_le_succ hs
      by_cases hc : isSpace c = true
      · rw [tokensFrom, if_pos hc, ih hle]
        simp only [spells_space_iff hc]
      · rw [tokensFrom, if_neg hc]
        simp only [spells_token_iff hc]
        cases ht : token? (c :: s) with
        | none => simp
        | some p =>
          obtain ⟨t, rest⟩ := p
          have hlt := length_of_token? ht
          have hrest : rest.length ≤ steps := by
            simp only [List.length_cons] at hlt
            omega
          rw [ih hrest]
          constructor
          · rintro ⟨us, h, rfl⟩
            exact ⟨t :: us, ⟨t, rest, us, rfl, h, rfl⟩, by simp⟩
          · rintro ⟨ts, ⟨t', rest', us, he, h, rfl⟩, rfl⟩
            cases he
            exact ⟨us, h, by simp⟩

theorem tokens?_eq_some_iff {s : List Char} {ts : List Token} :
    tokens? s = some ts ↔ Spells ts s := by
  rw [tokens?, tokensFrom_eq_some_iff le_rfl]
  simp

/-- Rows of tokens with commas between them. -/
def separated : List (List Token) → List Token
  | [] => []
  | ts :: rest => ts ++ rest.flatMap fun us => .comma :: us

/-- Rows of tokens with a comma after each. -/
def commaEnded (rows : List (List Token)) : List Token :=
  rows.flatMap fun ts => ts ++ [.comma]

theorem comma_commaEnded (rows : List (List Token)) :
    .comma :: commaEnded rows = rows.flatMap (fun ts => .comma :: ts) ++ [.comma] := by
  induction rows with
  | nil => rfl
  | cons ts rows ih =>
    rw [commaEnded, List.flatMap_cons, List.append_assoc, List.singleton_append, ← commaEnded, ih]
    simp

theorem separated_concat (rows : List (List Token)) (ts : List Token) :
    separated (rows ++ [ts]) = commaEnded rows ++ ts := by
  cases rows with
  | nil => simp [separated, commaEnded]
  | cons us rows =>
    have h := comma_commaEnded rows
    rw [commaEnded, List.flatMap_cons, ← commaEnded, List.append_assoc, List.append_assoc,
      List.singleton_append, ← List.cons_append, h]
    simp [separated]

theorem separated_comma {rows : List (List Token)} (h : rows ≠ []) :
    separated rows ++ [.comma] = commaEnded rows := by
  obtain ⟨init, last, rfl⟩ := (List.eq_nil_or_concat' rows).resolve_left h
  rw [separated_concat]
  simp [commaEnded]

theorem mem_separated {rows : List (List Token)} {t : Token} (ht : t ∈ separated rows) :
    t = .comma ∨ ∃ ts ∈ rows, t ∈ ts := by
  cases rows with
  | nil => cases ht
  | cons ts rows =>
    simp only [separated, List.mem_append, List.mem_flatMap, List.mem_cons] at ht
    obtain ht | ⟨us, hus, rfl | ht⟩ := ht
    · exact .inr ⟨ts, List.mem_cons_self, ht⟩
    · exact .inl rfl
    · exact .inr ⟨us, List.mem_cons_of_mem _ hus, ht⟩

/-- The tokens of a key and its value. -/
def fieldTokens (m : List Piece × Value) : List Token :=
  .string m.1 :: .colon :: m.2.tokens

theorem laterItemTokens_eq (vs : List Value) :
    laterItemTokens vs = (vs.map Value.tokens).flatMap fun ts => .comma :: ts := by
  induction vs with
  | nil => rfl
  | cons v vs ih => simp [laterItemTokens, ih]

theorem itemTokens_eq (vs : List Value) : itemTokens vs = separated (vs.map Value.tokens) := by
  cases vs with
  | nil => rfl
  | cons v vs => rw [itemTokens, laterItemTokens_eq, List.map_cons, separated]

theorem laterMemberTokens_eq (ms : List (List Piece × Value)) :
    laterMemberTokens ms = (ms.map fieldTokens).flatMap fun ts => .comma :: ts := by
  induction ms with
  | nil => rfl
  | cons m ms ih => simp [laterMemberTokens, fieldTokens, ih]

theorem memberTokens_eq (ms : List (List Piece × Value)) :
    memberTokens ms = separated (ms.map fieldTokens) := by
  cases ms with
  | nil => rfl
  | cons m ms => simp [memberTokens, laterMemberTokens_eq, separated, fieldTokens]

/-- The tokens of an open array or object up to the value that comes next. -/
def Frame.written : Frame → List Token
  | .array items => .openArray :: commaEnded (items.reverse.map Value.tokens)
  | .object members key =>
    .openObject :: (commaEnded (members.reverse.map fieldTokens) ++ [.string key, .colon])

/-- The tokens of all that is open, the outermost first. -/
def framesWritten : List Frame → List Token
  | [] => []
  | f :: frames => framesWritten frames ++ f.written

/-- The tokens that lead to a state. -/
def State.Wrote (ts : List Token) : State → Prop
  | .value frames => ts = framesWritten frames
  | .firstItem frames => ts = framesWritten frames ++ [.openArray]
  | .afterItem frames items =>
    items ≠ [] ∧
      ts = framesWritten frames ++ .openArray :: separated (items.reverse.map Value.tokens)
  | .firstKey frames => ts = framesWritten frames ++ [.openObject]
  | .nextKey frames members =>
    ts = framesWritten frames ++ .openObject :: commaEnded (members.reverse.map fieldTokens)
  | .colon frames members key =>
    ts = framesWritten frames ++
      .openObject :: (commaEnded (members.reverse.map fieldTokens) ++ [.string key])
  | .afterMember frames members =>
    members ≠ [] ∧
      ts = framesWritten frames ++ .openObject :: separated (members.reverse.map fieldTokens)
  | .done v => ts = v.tokens

/-- A complete value adds its own tokens. -/
theorem wrote_supply (v : Value) (frames : List Frame) :
    (supply v frames).Wrote (framesWritten frames ++ v.tokens) := by
  cases frames with
  | nil => rfl
  | cons f frames =>
    cases f with
    | array items =>
      refine ⟨List.cons_ne_nil v items, ?_⟩
      simp [framesWritten, Frame.written, separated_concat]
    | object members key =>
      refine ⟨List.cons_ne_nil (key, v) members, ?_⟩
      simp [framesWritten, Frame.written, separated_concat, fieldTokens]

theorem wrote_startValue {frames : List Frame} {t : Token} {s : State}
    (h : startValue frames t = some s) : s.Wrote (framesWritten frames ++ [t]) := by
  unfold startValue at h
  split at h
  all_goals first | cases h; exact wrote_supply _ frames | cases h; rfl | cases h

/-- Each step adds its token to what was written. -/
theorem State.Wrote.step {ts : List Token} {s s' : State} {t : Token} (hs : s.Wrote ts)
    (h : s.step t = some s') : s'.Wrote (ts ++ [t]) := by
  -- A value starts after a bracket, a comma or a colon. A comma turns the rows between commas into rows
  -- that end in one, and a closing bracket completes the value of what it closes.
  unfold State.step at h
  split at h
  case h_1 =>
    obtain rfl := hs
    exact wrote_startValue h
  case h_3 =>
    obtain rfl := hs
    simpa [framesWritten, Frame.written, commaEnded] using wrote_startValue h
  case h_12 => cases h
  all_goals cases h
  case h_2 frames =>
    obtain rfl := hs
    simpa [Value.tokens, itemTokens] using wrote_supply (.array []) frames
  case h_4 frames items =>
    obtain ⟨hne, rfl⟩ := hs
    have hcomma : separated (items.reverse.map Value.tokens) ++ [.comma] =
        commaEnded (items.reverse.map Value.tokens) :=
      separated_comma (by simpa using hne)
    simp only [Wrote, framesWritten, Frame.written, ← hcomma, List.append_assoc, List.cons_append]
  case h_5 frames items =>
    obtain ⟨hne, rfl⟩ := hs
    simpa [Value.tokens, itemTokens_eq] using wrote_supply (.array items.reverse) frames
  case h_6 frames =>
    obtain rfl := hs
    simpa [Value.tokens, memberTokens] using wrote_supply (.object []) frames
  case h_7 =>
    obtain rfl := hs
    simp [Wrote, commaEnded]
  case h_8 =>
    obtain rfl := hs
    simp [Wrote]
  case h_9 =>
    obtain rfl := hs
    simp [Wrote, framesWritten, Frame.written]
  case h_10 frames members =>
    obtain ⟨hne, rfl⟩ := hs
    have hcomma : separated (members.reverse.map fieldTokens) ++ [.comma] =
        commaEnded (members.reverse.map fieldTokens) :=
      separated_comma (by simpa using hne)
    simp only [Wrote, ← hcomma, List.append_assoc, List.cons_append]
  case h_11 frames members =>
    obtain ⟨hne, rfl⟩ := hs
    simpa [Value.tokens, memberTokens_eq] using wrote_supply (.object members.reverse) frames

/-- A run adds its tokens to what was written. -/
theorem State.Wrote.run {ts us : List Token} {s s' : State} (hs : s.Wrote ts)
    (h : s.run us = some s') : s'.Wrote (ts ++ us) := by
  induction us generalizing s ts with
  | nil =>
    cases h
    simpa using hs
  | cons u us ih =>
    rw [State.run] at h
    cases hu : s.step u with
    | none =>
      rw [hu] at h
      cases h
    | some s₁ =>
      rw [hu] at h
      simpa using ih (hs.step hu) h

theorem run_firstItem (v : Value) (frames : List Frame) (rest : List Token) :
    (State.firstItem frames).run (v.tokens ++ rest) =
      (State.value (.array [] :: frames)).run (v.tokens ++ rest) := by
  cases v <;> rfl

mutual

/-- The tokens of a value lead to the state after it. -/
theorem run_tokens (v : Value) (frames : List Frame) (rest : List Token) :
    (State.value frames).run (v.tokens ++ rest) = (supply v frames).run rest := by
  match v with
  | .null => rfl
  | .bool b => rfl
  | .number n => rfl
  | .string s => rfl
  | .array [] => rfl
  | .array (v :: vs) =>
    have hv := run_tokens v (.array [] :: frames) (laterItemTokens vs ++ .closeArray :: rest)
    have hvs := run_laterItemTokens vs frames [v] rest
    -- The first item is awaited in a state of its own, where the array may also be closed.
    have hfirst := run_firstItem v frames (laterItemTokens vs ++ .closeArray :: rest)
    simp only [Value.tokens, itemTokens, List.cons_append, List.append_assoc, State.run, State.step,
      startValue, List.nil_append]
    rw [hfirst, hv]
    exact hvs
  | .object [] => rfl
  | .object ((key, v) :: ms) =>
    have hv := run_tokens v (.object [] key :: frames) (laterMemberTokens ms ++ .closeObject :: rest)
    have hms := run_laterMemberTokens ms frames [(key, v)] rest
    simp only [Value.tokens, memberTokens, List.cons_append, List.append_assoc, State.run, State.step,
      startValue, List.nil_append]
    rw [hv]
    exact hms

theorem run_laterItemTokens (vs : List Value) (frames : List Frame) (items : List Value)
    (rest : List Token) :
    (State.afterItem frames items).run (laterItemTokens vs ++ .closeArray :: rest) =
      (supply (.array (items.reverse ++ vs)) frames).run rest := by
  match vs with
  | [] => simp [laterItemTokens, State.run, State.step]
  | v :: vs =>
    have hv := run_tokens v (.array items :: frames) (laterItemTokens vs ++ .closeArray :: rest)
    have hvs := run_laterItemTokens vs frames (v :: items) rest
    simp only [laterItemTokens, List.cons_append, List.append_assoc, State.run, State.step]
    rw [hv, supply]
    simpa using hvs

theorem run_laterMemberTokens (ms : List (List Piece × Value)) (frames : List Frame)
    (members : List (List Piece × Value)) (rest : List Token) :
    (State.afterMember frames members).run (laterMemberTokens ms ++ .closeObject :: rest) =
      (supply (.object (members.reverse ++ ms)) frames).run rest := by
  match ms with
  | [] => simp [laterMemberTokens, State.run, State.step]
  | (key, v) :: ms =>
    have hv := run_tokens v (.object members key :: frames)
      (laterMemberTokens ms ++ .closeObject :: rest)
    have hms := run_laterMemberTokens ms frames ((key, v) :: members) rest
    simp only [laterMemberTokens, List.cons_append, List.append_assoc, State.run, State.step]
    rw [hv, supply]
    simpa using hms

end

/-- Tokens are read as a value exactly when they are the tokens of that value. -/
theorem Value.ofTokens?_eq_some_iff {ts : List Token} {v : Value} :
    Value.ofTokens? ts = some v ↔ ts = v.tokens := by
  constructor
  · intro h
    unfold Value.ofTokens? at h
    split at h
    · rename_i v' hrun
      cases h
      have hwrote : (State.value []).Wrote [] := rfl
      exact hwrote.run hrun
    · cases h
  · rintro rfl
    have h := run_tokens v [] []
    rw [List.append_nil] at h
    rw [Value.ofTokens?, h]
    rfl

/-- A text is read as a value exactly when it spells the tokens of that value. -/
theorem Value.ofChars?_eq_some_iff {s : List Char} {v : Value} :
    Value.ofChars? s = some v ↔ Spells v.tokens s := by
  simp only [Value.ofChars?, Option.bind_eq_some_iff, tokens?_eq_some_iff,
    Value.ofTokens?_eq_some_iff]
  constructor
  · rintro ⟨ts, h, rfl⟩
    exact h
  · exact fun h => ⟨_, h, rfl⟩

end InlineLinkage.Json
