/-!
# UTF-8

Bytes and the characters they encode. `decode?` refuses every ill-formed sequence, `decodeLossy`
writes U+FFFD for each maximal part of an ill-formed one.
-/
namespace InlineLinkage.Text

/-- The encoding of one character. -/
def encodeChar (c : Char) : List UInt8 :=
  let n := c.toNat
  if n < 0x80 then [n.toUInt8]
  else if n < 0x800 then [(0xc0 + n / 0x40).toUInt8, (0x80 + n % 0x40).toUInt8]
  else if n < 0x10000 then
    [(0xe0 + n / 0x1000).toUInt8, (0x80 + n / 0x40 % 0x40).toUInt8, (0x80 + n % 0x40).toUInt8]
  else
    [(0xf0 + n / 0x40000).toUInt8, (0x80 + n / 0x1000 % 0x40).toUInt8,
      (0x80 + n / 0x40 % 0x40).toUInt8, (0x80 + n % 0x40).toUInt8]

/-- The encoding of a text. -/
def encodeChars (s : List Char) : List UInt8 :=
  s.flatMap encodeChar

/-- What a first byte announces: how many bytes follow, the bits it contributes, and the range of the
byte after it. The range rules out long forms, surrogates and numbers above U+10FFFF. -/
structure Lead where
  following : Nat
  bits : Nat
  low : Nat
  high : Nat

/-- The reading of a first byte, when it can start a character. -/
def lead? (b : UInt8) : Option Lead :=
  let n := b.toNat
  if n < 0x80 then some ⟨0, n, 0, 0⟩
  else if n < 0xc2 then none
  else if n < 0xe0 then some ⟨1, n - 0xc0, 0x80, 0xbf⟩
  else if n < 0xf0 then
    some ⟨2, n - 0xe0, if n == 0xe0 then 0xa0 else 0x80, if n == 0xed then 0x9f else 0xbf⟩
  else if n < 0xf5 then
    some ⟨3, n - 0xf0, if n == 0xf0 then 0x90 else 0x80, if n == 0xf4 then 0x8f else 0xbf⟩
  else none

/-- Reads up to `count` further bytes. The answer is the number read so far and the bytes left, and
whether all of them were there. -/
def continuation (count bits low high : Nat) : List UInt8 → Nat × List UInt8 × Bool
  | [] => (bits, [], count == 0)
  | b :: rest =>
    match count with
    | 0 => (bits, b :: rest, true)
    | count + 1 =>
      let n := b.toNat
      if low ≤ n && n ≤ high then continuation count (bits * 0x40 + (n - 0x80)) 0x80 0xbf rest
      else (bits, b :: rest, false)

theorem length_continuation_le (count bits low high : Nat) (bytes : List UInt8) :
    (continuation count bits low high bytes).2.1.length ≤ bytes.length := by
  induction bytes generalizing count bits low high with
  | nil => simp [continuation]
  | cons b rest ih =>
    cases count with
    | zero => simp [continuation]
    | succ count =>
      simp only [continuation]
      split
      · exact Nat.le_succ_of_le (ih ..)
      · simp

/-- One character, or nothing for an ill-formed part, and the bytes after it. -/
def decodeStep (b : UInt8) (rest : List UInt8) : Option Char × List UInt8 :=
  match lead? b with
  | none => (none, rest)
  | some l =>
    let (n, rest, complete) := continuation l.following l.bits l.low l.high rest
    (if complete then some (Char.ofNat n) else none, rest)

theorem length_decodeStep_le (b : UInt8) (rest : List UInt8) :
    (decodeStep b rest).2.length ≤ rest.length := by
  unfold decodeStep
  split
  · exact Nat.le_refl _
  · exact length_continuation_le ..

/-- The parts of a sequence of bytes after those already found, which are given reversed. A part is a
character, or nothing when it is ill-formed. -/
def partsFrom (found : List (Option Char)) : List UInt8 → List (Option Char)
  | [] => found.reverse
  | b :: rest => partsFrom ((decodeStep b rest).1 :: found) (decodeStep b rest).2
termination_by bytes => bytes.length
decreasing_by exact Nat.lt_succ_of_le (length_decodeStep_le b rest)

/-- The characters and ill-formed parts of a sequence of bytes. -/
def decodeParts (bytes : List UInt8) : List (Option Char) :=
  partsFrom [] bytes

/-- The text that well-formed bytes encode. -/
def decode? (bytes : List UInt8) : Option (List Char) :=
  (decodeParts bytes).mapM id

/-- The text of any bytes, with U+FFFD for each ill-formed part. -/
def decodeLossy (bytes : List UInt8) : List Char :=
  (decodeParts bytes).map fun part => part.getD '\ufffd'

end InlineLinkage.Text
