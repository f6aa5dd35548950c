import InlineLinkage.Text.Utf8
import Mathlib.Tactic

/-!
# Encoded texts are read back

The bytes of a text are decoded as that text, one character after the other, so two texts have the same
bytes only if they are the same. A line feed is the one byte with its number, and no other character uses
that byte.
-/
namespace InlineLinkage.Text

theorem toNat_toUInt8 {n : ℕ} (hn : n < 256) : n.toUInt8.toNat = n := by
  simp [Nat.toUInt8, Nat.mod_eq_of_lt hn]

theorem continuation_zero (bits low high : ℕ) (rest : List UInt8) :
    continuation 0 bits low high rest = (bits, rest, true) := by
  cases rest <;> rfl

/-- One more byte in its range. -/
theorem continuation_succ {n low high : ℕ} (hlow : low ≤ n) (hhigh : n ≤ high) (hn : n < 256)
    (count bits : ℕ) (rest : List UInt8) :
    continuation (count + 1) bits low high (n.toUInt8 :: rest) =
      continuation count (bits * 0x40 + (n - 0x80)) 0x80 0xbf rest := by
  simp [continuation, toNat_toUInt8 hn, hlow, hhigh]

/-- The first byte of a character, and what it announces. -/
theorem lead?_toUInt8 {n : ℕ} (hn : n < 0xf5) (hlong : ¬ (0x80 ≤ n ∧ n < 0xc2)) :
    lead? n.toUInt8 = some
      (if n < 0x80 then ⟨0, n, 0, 0⟩
      else if n < 0xe0 then ⟨1, n - 0xc0, 0x80, 0xbf⟩
      else if n < 0xf0 then
        ⟨2, n - 0xe0, if n = 0xe0 then 0xa0 else 0x80, if n = 0xed then 0x9f else 0xbf⟩
      else ⟨3, n - 0xf0, if n = 0xf0 then 0x90 else 0x80, if n = 0xf4 then 0x8f else 0xbf⟩) := by
  simp only [lead?, toNat_toUInt8 (show n < 256 by omega), beq_iff_eq]
  split_ifs <;> first | rfl | omega

theorem valid_toNat (c : Char) :
    c.toNat < 0xd800 ∨ (0xdfff < c.toNat ∧ c.toNat < 0x110000) := c.valid

/-- A character is decoded from its bytes, whatever follows. -/
theorem exists_decodeStep_encodeChar (c : Char) (rest : List UInt8) :
    ∃ b bytes, encodeChar c = b :: bytes ∧ decodeStep b (bytes ++ rest) = (some c, rest) := by
  have hvalid := valid_toNat c
  have hc : Char.ofNat c.toNat = c := Char.ofNat_toNat c
  simp only [encodeChar]
  split_ifs with h1 h2 h3
  · refine ⟨_, _, rfl, ?_⟩
    rw [decodeStep, lead?_toUInt8 (by omega) (by omega), if_pos h1]
    simp [continuation_zero, hc]
  · refine ⟨_, _, rfl, ?_⟩
    have hbits : (0xc0 + c.toNat / 0x40 - 0xc0) * 0x40 + (0x80 + c.toNat % 0x40 - 0x80) = c.toNat := by
      omega
    rw [decodeStep, lead?_toUInt8 (by omega) (by omega), if_neg (by omega), if_pos (by omega)]
    simp only [List.cons_append, List.nil_append]
    rw [continuation_succ (by omega) (by omega) (by omega), continuation_zero, hbits, hc]
    rfl
  · refine ⟨_, _, rfl, ?_⟩
    have hbits : ((0xe0 + c.toNat / 0x1000 - 0xe0) * 0x40 + (0x80 + c.toNat / 0x40 % 0x40 - 0x80)) *
        0x40 + (0x80 + c.toNat % 0x40 - 0x80) = c.toNat := by
      omega
    rw [decodeStep, lead?_toUInt8 (by omega) (by omega), if_neg (by omega), if_neg (by omega),
      if_pos (by omega)]
    simp only [List.cons_append, List.nil_append]
    rw [continuation_succ (by split_ifs <;> omega) (by split_ifs <;> omega) (by omega),
      continuation_succ (by omega) (by omega) (by omega), continuation_zero, hbits, hc]
    rfl
  · refine ⟨_, _, rfl, ?_⟩
    have hbits : (((0xf0 + c.toNat / 0x40000 - 0xf0) * 0x40 +
        (0x80 + c.toNat / 0x1000 % 0x40 - 0x80)) * 0x40 + (0x80 + c.toNat / 0x40 % 0x40 - 0x80)) *
        0x40 + (0x80 + c.toNat % 0x40 - 0x80) = c.toNat := by
      omega
    rw [decodeStep, lead?_toUInt8 (by omega) (by omega), if_neg (by omega), if_neg (by omega),
      if_neg (by omega)]
    simp only [List.cons_append, List.nil_append]
    rw [continuation_succ (by split_ifs <;> omega) (by split_ifs <;> omega) (by omega),
      continuation_succ (by omega) (by omega) (by omega),
      continuation_succ (by omega) (by omega) (by omega), continuation_zero, hbits, hc]
    rfl

theorem partsFrom_encodeChars (s : List Char) (found : List (Option Char)) :
    partsFrom found (encodeChars s) = found.reverse ++ s.map some := by
  induction s generalizing found with
  | nil => simp [encodeChars, partsFrom]
  | cons c s ih =>
    obtain ⟨b, bytes, hc, hstep⟩ := exists_decodeStep_encodeChar c (encodeChars s)
    rw [encodeChars, List.flatMap_cons, ← encodeChars, hc, List.cons_append, partsFrom, hstep, ih]
    simp

/-- The bytes of a text are those characters, with nothing ill-formed among them. -/
theorem decodeParts_encodeChars (s : List Char) : decodeParts (encodeChars s) = s.map some := by
  rw [decodeParts, partsFrom_encodeChars, List.reverse_nil, List.nil_append]

theorem encodeChars_injective : Function.Injective encodeChars := by
  intro s t h
  have hparts : s.map some = t.map some := by
    rw [← decodeParts_encodeChars, h, decodeParts_encodeChars]
  exact List.map_injective_iff.mpr (Option.some_injective _) hparts

theorem encodeChars_append (s t : List Char) : encodeChars (s ++ t) = encodeChars s ++ encodeChars t :=
  List.flatMap_append

/-- The byte of a line feed stands for nothing else. -/
theorem newline_not_mem_encodeChar {c : Char} (hc : c ≠ '\n') : (10 : UInt8) ∉ encodeChar c := by
  have hne : c.toNat ≠ 10 := fun h => hc (Char.ext (UInt32.ext h))
  have hvalid := valid_toNat c
  -- Every byte has a number of its own that is not ten.
  have hbyte {n : ℕ} (hn : n < 256) (h10 : n ≠ 10) : (10 : UInt8) ≠ n.toUInt8 := by
    intro h
    have := congrArg UInt8.toNat h
    rw [toNat_toUInt8 hn] at this
    exact h10 this.symm
  simp only [encodeChar]
  split_ifs with h1 h2 h3
  · simpa using hbyte (by omega) hne
  · simp only [List.mem_cons, List.not_mem_nil, or_false, not_or]
    exact ⟨hbyte (by omega) (by omega), hbyte (by omega) (by omega)⟩
  · simp only [List.mem_cons, List.not_mem_nil, or_false, not_or]
    exact ⟨hbyte (by omega) (by omega), hbyte (by omega) (by omega), hbyte (by omega) (by omega)⟩
  · simp only [List.mem_cons, List.not_mem_nil, or_false, not_or]
    exact ⟨hbyte (by omega) (by omega), hbyte (by omega) (by omega), hbyte (by omega) (by omega),
      hbyte (by omega) (by omega)⟩

theorem newline_not_mem_encodeChars {s : List Char} (hs : '\n' ∉ s) : (10 : UInt8) ∉ encodeChars s := by
  intro h
  obtain ⟨c, hc, hb⟩ := List.mem_flatMap.mp h
  exact newline_not_mem_encodeChar (fun he => hs (he ▸ hc)) hb

end InlineLinkage.Text
