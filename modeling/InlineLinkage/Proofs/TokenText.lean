import InlineLinkage.Proofs.Trimming
import InlineLinkage.ResumeToken
import Mathlib.Tactic

/-!
# The text of a resume token

A token with some digits of a digest is read back from its text, also when blanks stand around it, if
its index is a machine word.
-/
namespace InlineLinkage

namespace Text

theorem natChars_ne_nil (n : ℕ) : natChars n ≠ [] :=
  Nat.toDigits_ne_nil

theorem isDigit_of_mem_natChars {n : ℕ} {c : Char} (hc : c ∈ natChars n) : c.isDigit = true :=
  Nat.isDigit_of_mem_toDigits (by decide) (by decide) hc

theorem ofDigitsFrom_map_digitValue (s : List Char) (start : ℕ) :
    ofDigitsFrom start (s.map digitValue) = Nat.ofDigitChars 10 s start := by
  simp only [ofDigitsFrom, Nat.ofDigitChars, List.foldl_map, digitValue, Nat.mul_comm]

/-- The digits of a number denote it. -/
theorem ofDigitChars_natChars (n : ℕ) : ofDigitChars (natChars n) = n := by
  rw [ofDigitChars, ofDigitsFrom_map_digitValue, natChars, Nat.ofDigitChars_ten_toDigits]

/-- No visible character of ASCII is a blank. -/
theorem isBlank_eq_false {c : Char} (h : 0x21 ≤ c.toNat) (h' : c.toNat ≤ 0x7e) :
    isBlank c = false := by
  simp only [isBlank, Bool.or_eq_false_iff, Bool.and_eq_false_iff, decide_eq_false_iff_not,
    beq_eq_false_iff_ne]
  omega

end Text

open Text

namespace ResumeToken

/-- There are digits after a colon, all of them those of a digest. -/
structure Printable (t : ResumeToken) : Prop where
  digits_ne_nil : ∀ p, t.digestStart = some p → p.toList ≠ []
  digits : ∀ p, t.digestStart = some p → ∀ c ∈ p.toList, isDigestDigit c = true

theorem isDigestDigit_of_isDigit {c : Char} (hc : c.isDigit = true) : isDigestDigit c = true := by
  rw [isDigestDigit, hc, Bool.true_or]

theorem toNat_of_isDigestDigit {c : Char} (hc : isDigestDigit c = true) :
    0x30 ≤ c.toNat ∧ c.toNat ≤ 0x39 ∨ 0x61 ≤ c.toNat ∧ c.toNat ≤ 0x66 := by
  simp only [isDigestDigit, Char.isDigit, Bool.or_eq_true, Bool.and_eq_true, decide_eq_true_eq,
    Char.le_def, UInt32.le_iff_toNat_le] at hc
  exact hc

theorem splitColon_of_not_mem {s : List Char} (h : ':' ∉ s) : splitColon s = (s, none) := by
  induction s with
  | nil => rfl
  | cons c s ih =>
    obtain ⟨hc, hs⟩ := not_or.mp (List.mem_cons.not.mp h)
    rw [splitColon, if_neg (Ne.symm hc), ih hs]

theorem splitColon_append {s : List Char} (h : ':' ∉ s) (t : List Char) :
    splitColon (s ++ ':' :: t) = (s, some t) := by
  induction s with
  | nil => rfl
  | cons c s ih =>
    obtain ⟨hc, hs⟩ := not_or.mp (List.mem_cons.not.mp h)
    rw [List.cons_append, splitColon, if_neg (Ne.symm hc), ih hs]

theorem colon_not_mem_of_isDigit {s : List Char} (hs : ∀ c ∈ s, c.isDigit = true) : ':' ∉ s := by
  intro h
  have := hs _ h
  contradiction

theorem index?_natChars {n : ℕ} (hn : n < indexBound) : index? (natChars n) = some n := by
  have hd : (natChars n).all Char.isDigit = true :=
    List.all_eq_true.mpr fun c hc => isDigit_of_mem_natChars hc
  have hc : ¬ (natChars n = [] ∨ ¬ (natChars n).all Char.isDigit) := by
    simp [natChars_ne_nil, hd]
  rw [index?, if_neg hc, ofDigitChars_natChars, if_pos hn]

/-- What follows the index. -/
def tail (t : ResumeToken) : List Char :=
  match t.digestStart with
  | some digits => ':' :: digits.toList
  | none => []

@[simp] theorem tail_none (n : ℕ) : tail ⟨n, none⟩ = [] := rfl

@[simp] theorem tail_some (n : ℕ) (p : String) : tail ⟨n, some p⟩ = ':' :: p.toList := rfl

theorem chars_eq (t : ResumeToken) : t.chars = natChars t.index ++ t.tail := rfl

/-- Digits that are read as the index may stand before what follows it. -/
theorem ofChars?_append_tail {t : ResumeToken} (ht : t.Printable) {digits : List Char}
    (hd : ∀ c ∈ digits, c.isDigit = true) (hi : index? digits = some t.index) :
    ofChars? (digits ++ t.tail) = some t := by
  have hcolon : ':' ∉ digits := colon_not_mem_of_isDigit hd
  obtain ⟨index, start⟩ := t
  cases start with
  | none =>
    simp only [tail_none, List.append_nil, ofChars?, splitColon_of_not_mem hcolon, hi, Option.map_some]
  | some p =>
    have hp : p.toList.all isDigestDigit = true := List.all_eq_true.mpr (ht.digits p rfl)
    have hgood : ¬ (p.toList = [] ∨ ¬ p.toList.all isDigestDigit) := by
      simp [ht.digits_ne_nil p rfl, hp]
    simp only [tail_some, ofChars?, splitColon_append hcolon, if_neg hgood, hi, Option.map_some,
      String.ofList_toList]

/-- A token is read back from its text. -/
theorem ofChars?_chars {t : ResumeToken} (ht : t.Printable) (hi : t.index < indexBound) :
    ofChars? t.chars = some t :=
  ofChars?_append_tail ht (fun _ => isDigit_of_mem_natChars) (index?_natChars hi)

theorem chars_ne_nil (t : ResumeToken) : t.chars ≠ [] := by
  simp [chars, natChars_ne_nil]

theorem mem_chars {t : ResumeToken} (ht : t.Printable) {c : Char} (hc : c ∈ t.chars) :
    c = ':' ∨ isDigestDigit c = true := by
  obtain hc | hc := List.mem_append.mp hc
  · exact .inr (isDigestDigit_of_isDigit (isDigit_of_mem_natChars hc))
  · cases hp : t.digestStart with
    | none => simp [hp] at hc
    | some p =>
      simp only [hp, List.mem_cons] at hc
      exact hc.imp_right (ht.digits p hp c)

/-- A printed token holds visible characters only. -/
theorem toNat_of_mem_chars {t : ResumeToken} (ht : t.Printable) {c : Char} (hc : c ∈ t.chars) :
    0x30 ≤ c.toNat ∧ c.toNat ≤ 0x66 := by
  obtain rfl | hd := mem_chars ht hc
  · decide
  · have := toNat_of_isDigestDigit hd
    omega

theorem ofText_surround {t : ResumeToken} (ht : t.Printable) (hi : t.index < indexBound)
    {left right : String} (hl : isAllBlank left = true) (hr : isAllBlank right = true) :
    ofText (trim (left ++ t.text ++ right)) = .ok t := by
  have htrim : (trim (left ++ t.text ++ right)).toList = t.chars := by
    rw [toList_trim, String.toList_append, String.toList_append, text, String.toList_ofList]
    have hvisible : ∀ c ∈ t.chars, isBlank c = false := fun c hc => by
      have := toNat_of_mem_chars ht hc
      exact isBlank_eq_false (by omega) (by omega)
    apply IsTrimmed.trimChars_eq
    refine ⟨⟨left.toList, right.toList, rfl, List.all_eq_true.mp hl, List.all_eq_true.mp hr⟩, ?_, ?_⟩
    · exact fun c hc => hvisible c (List.mem_of_mem_head? hc)
    · exact fun c hc => hvisible c (List.mem_of_mem_getLast? hc)
  rw [ofText, htrim, ofChars?_chars ht hi]

/-- Where a printed token is given, and with which blanks around it, makes no difference. -/
theorem resolve_surround {t : ResumeToken} (ht : t.Printable) (hi : t.index < indexBound)
    {left right : String} (hl : isAllBlank left = true) (hr : isAllBlank right = true) :
    (∀ environment, resolve (some (left ++ t.text ++ right)) environment = .ok (some t)) ∧
      resolve none (some (left ++ t.text ++ right)) = .ok (some t) := by
  have hread (source : TokenSource) :
      ofSource source (left ++ t.text ++ right) = .ok (some t) := by
    rw [ofSource, ofText_surround ht hi hl hr]
  have hblank : isAllBlank (left ++ t.text ++ right) = false := by
    obtain ⟨c, hc⟩ := List.exists_mem_of_ne_nil t.chars t.chars_ne_nil
    have hn := toNat_of_mem_chars ht hc
    rw [isAllBlank, List.all_eq_false]
    refine ⟨c, ?_, by simp [isBlank_eq_false (c := c) (by omega) (by omega)]⟩
    simp only [String.toList_append, text, String.toList_ofList, List.mem_append]
    exact .inl (.inr hc)
  constructor
  · intro environment
    rw [resolve, hread]
  · rw [resolve, if_neg (by simp [hblank]), hread]

end ResumeToken

end InlineLinkage
