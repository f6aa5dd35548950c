import InlineLinkage.Proofs.TokenText

/-!
# The texts that spell resume tokens

A token is spelled by the digits of its index, with any zeros in front of them, and behind a colon by the
digits of a digest that it holds. No other text is read. One of the texts of a token has no zeros to spare,
and that is the one that is written.
-/
namespace InlineLinkage

namespace Text

/-- Digits without the zeros in front of them. A zero that stands alone is kept. -/
def dropZeros : List Char → List Char
  | '0' :: c :: rest => dropZeros (c :: rest)
  | digits => digits

theorem toNat_of_isDigit {c : Char} (hc : c.isDigit = true) : 48 ≤ c.toNat ∧ c.toNat ≤ 57 := by
  simp only [Char.isDigit, Bool.and_eq_true, decide_eq_true_eq, UInt32.le_iff_toNat_le] at hc
  exact hc

theorem digitValue_lt {c : Char} (hc : c.isDigit = true) : digitValue c < 10 := by
  have hzero : '0'.toNat = 48 := rfl
  have := toNat_of_isDigit hc
  rw [digitValue]
  omega

theorem digitValue_pos {c : Char} (hc : c.isDigit = true) (hne : c ≠ '0') : 0 < digitValue c := by
  have hzero : '0'.toNat = 48 := rfl
  have hdiff : c.toNat ≠ '0'.toNat := fun h => hne (Char.toNat_inj.mp h)
  have := toNat_of_isDigit hc
  rw [digitValue]
  omega

theorem digitChar_digitValue {c : Char} (hc : c.isDigit = true) : (digitValue c).digitChar = c := by
  have hzero : '0'.toNat = 48 := rfl
  have := toNat_of_isDigit hc
  apply Char.toNat_inj.mp
  rw [Nat.toNat_digitChar_of_lt_ten (digitValue_lt hc), digitValue]
  omega

theorem toDigits_digitValue {c : Char} (hc : c.isDigit = true) : Nat.toDigits 10 (digitValue c) = [c] := by
  rw [Nat.toDigits_of_lt_base (digitValue_lt hc), digitChar_digitValue hc]

theorem ofDigitChars_cons (c : Char) (digits : List Char) (n : ℕ) :
    Nat.ofDigitChars 10 (c :: digits) n = Nat.ofDigitChars 10 digits (10 * n + digitValue c) :=
  Nat.ofDigitChars_cons

/-- Digits behind a number that is not zero are written again behind its own. -/
theorem toDigits_ofDigitChars {digits : List Char} (hd : ∀ c ∈ digits, c.isDigit = true) {n : ℕ}
    (hn : 0 < n) :
    Nat.toDigits 10 (Nat.ofDigitChars 10 digits n) = Nat.toDigits 10 n ++ digits := by
  induction digits generalizing n with
  | nil => rw [Nat.ofDigitChars_nil, List.append_nil]
  | cons c digits ih =>
    obtain ⟨hc, hd⟩ := List.forall_mem_cons.mp hd
    have hlt := digitValue_lt hc
    have hdiv : (10 * n + digitValue c) / 10 = n := by omega
    have hmod : (10 * n + digitValue c) % 10 = digitValue c := by omega
    rw [ofDigitChars_cons, ih hd (by omega), Nat.toDigits_of_base_le (by decide) (by omega), hdiv,
      hmod, digitChar_digitValue hc, List.append_assoc, List.singleton_append]

/-- The number that digits denote is written with these digits, without the zeros in front. -/
theorem natChars_ofDigitChars {digits : List Char} (hne : digits ≠ [])
    (hd : ∀ c ∈ digits, c.isDigit = true) :
    natChars (Nat.ofDigitChars 10 digits 0) = dropZeros digits := by
  fun_induction dropZeros digits with
  | case1 c rest ih =>
    have hzero : Nat.ofDigitChars 10 ('0' :: c :: rest) 0 = Nat.ofDigitChars 10 (c :: rest) 0 :=
      ofDigitChars_cons ..
    rw [hzero, ih (List.cons_ne_nil _ _) (List.forall_mem_cons.mp hd).2]
  | case2 digits hfirst =>
    obtain ⟨c, rest, rfl⟩ := List.exists_cons_of_ne_nil hne
    obtain ⟨hc, hrest⟩ := List.forall_mem_cons.mp hd
    rw [natChars, ofDigitChars_cons, Nat.mul_zero, Nat.zero_add]
    cases rest with
    | nil => rw [Nat.ofDigitChars_nil, toDigits_digitValue hc]
    | cons d rest =>
      have hpos : 0 < digitValue c := digitValue_pos hc fun h => hfirst d rest (by rw [h])
      rw [toDigits_ofDigitChars hrest hpos, toDigits_digitValue hc, List.singleton_append]

end Text

open Text

namespace ResumeToken

/-- The text is the digits of the index, which may start with zeros, and what follows the index. -/
structure Spelled (t : ResumeToken) (digits s : List Char) : Prop where
  ne_nil : digits ≠ []
  isDigit : ∀ c ∈ digits, c.isDigit = true
  index_eq : Nat.ofDigitChars 10 digits 0 = t.index
  index_lt : t.index < 2 ^ 64
  printable : t.Printable
  text_eq : s = digits ++ t.tail

theorem printable_none (n : ℕ) : Printable ⟨n, none⟩ := by
  constructor <;> simp

theorem printable_some_iff {n : ℕ} {p : String} :
    Printable ⟨n, some p⟩ ↔ p.toList ≠ [] ∧ ∀ c ∈ p.toList, isDigestDigit c = true := by
  constructor
  · exact fun h => ⟨h.digits_ne_nil p rfl, h.digits p rfl⟩
  · rintro ⟨hne, hd⟩
    constructor
    · intro q hq
      cases hq
      exact hne
    · intro q hq
      cases hq
      exact hd

theorem indexBound_eq : indexBound = 2 ^ 64 := rfl

theorem index?_eq_some_iff {s : List Char} {n : ℕ} :
    index? s = some n ↔
      s ≠ [] ∧ (∀ c ∈ s, c.isDigit = true) ∧ Nat.ofDigitChars 10 s 0 = n ∧ n < 2 ^ 64 := by
  have hvalue : ofDigitChars s = Nat.ofDigitChars 10 s 0 := ofDigitsFrom_map_digitValue s 0
  unfold index?
  rw [hvalue, indexBound_eq]
  split
  · rename_i hbad
    refine iff_of_false (by simp) ?_
    rintro ⟨hne, hd, -⟩
    exact hbad.elim hne fun h => h (List.all_eq_true.mpr hd)
  · rename_i hgood
    obtain ⟨hne, hd⟩ := not_or.mp hgood
    have hd : ∀ c ∈ s, c.isDigit = true := List.all_eq_true.mp (not_not.mp hd)
    constructor
    · intro h
      obtain ⟨hlt, he⟩ := Option.ite_none_right_eq_some.mp h
      cases he
      exact ⟨hne, hd, rfl, hlt⟩
    · rintro ⟨-, -, rfl, hlt⟩
      exact if_pos hlt

/-- A text is cut at its first colon, if there is one. -/
theorem splitColon_cases (s : List Char) :
    splitColon s = (s, none) ∨
      ∃ before after, s = before ++ ':' :: after ∧ splitColon s = (before, some after) := by
  by_cases hs : ':' ∈ s
  · obtain ⟨before, after, rfl, hbefore⟩ := List.eq_append_cons_of_mem hs
    exact .inr ⟨before, after, rfl, splitColon_append hbefore after⟩
  · exact .inl (splitColon_of_not_mem hs)

/-- A text is read as a token exactly when it spells the token. -/
theorem ofChars?_eq_some_iff {s : List Char} {t : ResumeToken} :
    ofChars? s = some t ↔ ∃ digits, t.Spelled digits s := by
  constructor
  · intro h
    unfold ofChars? at h
    obtain hsplit | ⟨before, after, rfl, hsplit⟩ := splitColon_cases s
    · rw [hsplit] at h
      obtain ⟨n, hn, rfl⟩ := Option.map_eq_some_iff.mp h
      obtain ⟨hne, hd, hindex, hlt⟩ := index?_eq_some_iff.mp hn
      exact ⟨s, hne, hd, hindex, hlt, printable_none n, (List.append_nil s).symm⟩
    · rw [hsplit] at h
      obtain ⟨hafter, h⟩ := Option.ite_none_left_eq_some.mp h
      obtain ⟨n, hn, rfl⟩ := Option.map_eq_some_iff.mp h
      obtain ⟨hne, hd, hindex, hlt⟩ := index?_eq_some_iff.mp hn
      obtain ⟨hafter, hall⟩ := not_or.mp hafter
      have hstart : Printable ⟨n, some (String.ofList after)⟩ := by
        rw [printable_some_iff, String.toList_ofList]
        exact ⟨hafter, List.all_eq_true.mp (not_not.mp hall)⟩
      exact ⟨before, hne, hd, hindex, hlt, hstart, by rw [tail_some, String.toList_ofList]⟩
  · rintro ⟨digits, h⟩
    have hindex : index? digits = some t.index :=
      index?_eq_some_iff.mpr ⟨h.ne_nil, h.isDigit, h.index_eq, h.index_lt⟩
    rw [h.text_eq, ofChars?_append_tail h.printable h.isDigit hindex]

theorem ofText_eq_ok_iff {s : String} {t : ResumeToken} :
    ofText s = .ok t ↔ ∃ digits, t.Spelled digits s.toList := by
  rw [← ofChars?_eq_some_iff, ofText]
  cases ofChars? s.toList <;> simp

theorem ofText_eq_error_iff {s : String} {e : MalformedToken} :
    ofText s = .error e ↔ e = ⟨s⟩ ∧ ∀ t digits, ¬ Spelled t digits s.toList := by
  have hnone : ofChars? s.toList = none ↔ ∀ t digits, ¬ Spelled t digits s.toList := by
    simp only [Option.eq_none_iff_forall_ne_some, ne_eq, ofChars?_eq_some_iff, not_exists]
  rw [← hnone, ofText]
  cases ofChars? s.toList <;> simp [eq_comm]

/-- Outside the digits of the index there are the colon and the digits behind it. -/
theorem Spelled.mem {t : ResumeToken} {digits s : List Char} (h : t.Spelled digits s) {c : Char}
    (hc : c ∈ s) : c = ':' ∨ isDigestDigit c = true := by
  obtain rfl := h.text_eq
  obtain hc | hc := List.mem_append.mp hc
  · exact .inr (isDigestDigit_of_isDigit (h.isDigit c hc))
  · exact mem_chars h.printable (t.chars_eq ▸ List.mem_append_right _ hc)

theorem Spelled.count_colon_le {t : ResumeToken} {digits s : List Char} (h : t.Spelled digits s) :
    s.count ':' ≤ 1 := by
  obtain rfl := h.text_eq
  rw [List.count_append, List.count_eq_zero_of_not_mem (colon_not_mem_of_isDigit h.isDigit)]
  obtain ⟨index, start⟩ := t
  cases start with
  | none => simp
  | some p =>
    have hcolon : ':' ∉ p.toList := fun hmem =>
      absurd ((printable_some_iff.mp h.printable).2 _ hmem) (by decide)
    rw [tail_some, List.count_cons_self, List.count_eq_zero_of_not_mem hcolon]

/-- A token that was read is written as its text without the zeros in front of the index. -/
theorem Spelled.chars_eq {t : ResumeToken} {digits s : List Char} (h : t.Spelled digits s) :
    t.chars = dropZeros digits ++ t.tail := by
  rw [t.chars_eq, ← h.index_eq, natChars_ofDigitChars h.ne_nil h.isDigit]

/-- A text is read as a token exactly when it is a row of digits of a number below `2 ^ 64`, its index,
and nothing else or a colon and the digits of a digest, at least one. So it has no second colon, and no
other character than these. Any other text is an error that repeats it. A token that was read is written
without the zeros to spare in front of its index and with all that follows unchanged, and a token of this
kind is read back from its text. -/
theorem reads_index_and_digest :
    (∀ (s : String) (t : ResumeToken), ofText s = .ok t ↔ ∃ digits, t.Spelled digits s.toList) ∧
      (∀ (s : String) (e : MalformedToken),
        ofText s = .error e ↔ e = ⟨s⟩ ∧ ∀ t digits, ¬ Spelled t digits s.toList) ∧
      (∀ (s : String) (t : ResumeToken), ofText s = .ok t →
        s.toList.count ':' ≤ 1 ∧ ∀ c ∈ s.toList, c = ':' ∨ isDigestDigit c = true) ∧
      (∀ (s : String) (t : ResumeToken) (digits : List Char), t.Spelled digits s.toList →
        s.toList = digits ++ t.tail ∧ t.text.toList = dropZeros digits ++ t.tail) ∧
      ∀ t : ResumeToken, t.index < 2 ^ 64 → t.Printable → ofText t.text = .ok t := by
  refine ⟨fun _ _ => ofText_eq_ok_iff, fun _ _ => ofText_eq_error_iff, fun s t h => ?_,
    fun s t digits h => ⟨h.text_eq, ?_⟩, fun t hindex ht => ?_⟩
  · obtain ⟨digits, h⟩ := ofText_eq_ok_iff.mp h
    exact ⟨h.count_colon_le, fun c => h.mem⟩
  · rw [text, String.toList_ofList, h.chars_eq]
  · rw [ofText, text, String.toList_ofList, ofChars?_chars ht hindex]

/-- Zeros in front of the index are dropped, those of the digest are kept. -/
theorem reads_index_and_digest_zeros :
    let t : ResumeToken := ⟨70, some "00ab"⟩
    t.Spelled "0070".toList "0070:00ab".toList ∧ ofText "0070:00ab" = .ok t ∧
      t.text.toList = "70:00ab".toList ∧ ofText t.text = .ok t := by
  intro t
  have hstart : t.Printable := printable_some_iff.mpr ⟨by decide, List.all_eq_true.mp (by decide)⟩
  have hindex : t.index < 2 ^ 64 := by
    change 70 < 2 ^ 64
    norm_num
  have hspelled : t.Spelled "0070".toList "0070:00ab".toList :=
    ⟨by decide, List.all_eq_true.mp (by decide), by decide, hindex, hstart, by decide⟩
  obtain ⟨hread, -, -, hwritten, hback⟩ := reads_index_and_digest
  refine ⟨hspelled, (hread _ t).mpr ⟨_, hspelled⟩, ?_, hback t hindex hstart⟩
  exact (hwritten "0070:00ab" t _ hspelled).2

end ResumeToken

end InlineLinkage
