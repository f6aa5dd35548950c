/-!
# SHA-256

The secure hash of 256 bits. `digest` hashes a whole message. A `Hasher` takes the message byte by byte and
keeps only the bytes of the unfinished block, and `finish_absorb` says that the two agree.
-/
namespace InlineLinkage.Sha256

/-- The eight working words. -/
structure Chain where
  a : UInt32
  b : UInt32
  c : UInt32
  d : UInt32
  e : UInt32
  f : UInt32
  g : UInt32
  h : UInt32
  deriving DecidableEq, Repr

def initial : Chain :=
  ⟨0x6a09e667, 0xbb67ae85, 0x3c6ef372, 0xa54ff53a, 0x510e527f, 0x9b05688c, 0x1f83d9ab, 0x5be0cd19⟩

def roundConstants : Array UInt32 := #[
  0x428a2f98, 0x71374491, 0xb5c0fbcf, 0xe9b5dba5, 0x3956c25b, 0x59f111f1, 0x923f82a4, 0xab1c5ed5,
  0xd807aa98, 0x12835b01, 0x243185be, 0x550c7dc3, 0x72be5d74, 0x80deb1fe, 0x9bdc06a7, 0xc19bf174,
  0xe49b69c1, 0xefbe4786, 0x0fc19dc6, 0x240ca1cc, 0x2de92c6f, 0x4a7484aa, 0x5cb0a9dc, 0x76f988da,
  0x983e5152, 0xa831c66d, 0xb00327c8, 0xbf597fc7, 0xc6e00bf3, 0xd5a79147, 0x06ca6351, 0x14292967,
  0x27b70a85, 0x2e1b2138, 0x4d2c6dfc, 0x53380d13, 0x650a7354, 0x766a0abb, 0x81c2c92e, 0x92722c85,
  0xa2bfe8a1, 0xa81a664b, 0xc24b8b70, 0xc76c51a3, 0xd192e819, 0xd6990624, 0xf40e3585, 0x106aa070,
  0x19a4c116, 0x1e376c08, 0x2748774c, 0x34b0bcb5, 0x391c0cb3, 0x4ed8aa4a, 0x5b9cca4f, 0x682e6ff3,
  0x748f82ee, 0x78a5636f, 0x84c87814, 0x8cc70208, 0x90befffa, 0xa4506ceb, 0xbef9a3f7, 0xc67178f2]

@[inline] def rotateRight (x n : UInt32) : UInt32 :=
  (x >>> n) ||| (x <<< (32 - n))

@[inline] def sum0 (x : UInt32) : UInt32 :=
  rotateRight x 2 ^^^ rotateRight x 13 ^^^ rotateRight x 22

@[inline] def sum1 (x : UInt32) : UInt32 :=
  rotateRight x 6 ^^^ rotateRight x 11 ^^^ rotateRight x 25

@[inline] def sigma0 (x : UInt32) : UInt32 :=
  rotateRight x 7 ^^^ rotateRight x 18 ^^^ (x >>> 3)

@[inline] def sigma1 (x : UInt32) : UInt32 :=
  rotateRight x 17 ^^^ rotateRight x 19 ^^^ (x >>> 10)

@[inline] def choose (x y z : UInt32) : UInt32 :=
  (x &&& y) ^^^ ((~~~x) &&& z)

@[inline] def majority (x y z : UInt32) : UInt32 :=
  (x &&& y) ^^^ (x &&& z) ^^^ (y &&& z)

/-- The big-endian word at a word position of a block. -/
@[inline] def wordAt (block : Array UInt8) (i : Nat) : UInt32 :=
  ((block.getD (4 * i) 0).toUInt32 <<< 24) ||| ((block.getD (4 * i + 1) 0).toUInt32 <<< 16) |||
    ((block.getD (4 * i + 2) 0).toUInt32 <<< 8) ||| (block.getD (4 * i + 3) 0).toUInt32

/-- The words of the message schedule from the given position on, up to the sixty-fourth. -/
def extendSchedule (w : Array UInt32) (i : Nat) : Array UInt32 :=
  if i < 64 then
    let next := sigma1 (w.getD (i - 2) 0) + w.getD (i - 7) 0 + sigma0 (w.getD (i - 15) 0) +
      w.getD (i - 16) 0
    extendSchedule (w.push next) (i + 1)
  else w
termination_by 64 - i

/-- The words of a block. -/
def blockWords (block : Array UInt8) (w : Array UInt32) (i : Nat) : Array UInt32 :=
  if i < 16 then blockWords block (w.push (wordAt block i)) (i + 1) else w
termination_by 16 - i

/-- The message schedule of a block. -/
def schedule (block : Array UInt8) : Array UInt32 :=
  extendSchedule (blockWords block (Array.mkEmpty 64) 0) 16

/-- One round. -/
@[inline] def Chain.round (s : Chain) (k w : UInt32) : Chain :=
  let t1 := s.h + sum1 s.e + choose s.e s.f s.g + k + w
  let t2 := sum0 s.a + majority s.a s.b s.c
  ⟨t1 + t2, s.a, s.b, s.c, s.d + t1, s.e, s.f, s.g⟩

/-- The rounds from the given one on. -/
def rounds (w : Array UInt32) (s : Chain) (i : Nat) : Chain :=
  if i < 64 then rounds w (s.round (roundConstants.getD i 0) (w.getD i 0)) (i + 1) else s
termination_by 64 - i

/-- Takes one block of sixty-four bytes into the chain. -/
def compress (s : Chain) (block : Array UInt8) : Chain :=
  let t := rounds (schedule block) s 0
  ⟨s.a + t.a, s.b + t.b, s.c + t.c, s.d + t.d, s.e + t.e, s.f + t.f, s.g + t.g, s.h + t.h⟩

/-- Takes all full blocks of a sequence of bytes into the chain, and drops an unfinished one. -/
def compressAll (s : Chain) (bytes : List UInt8) : Chain :=
  if 64 ≤ bytes.length then compressAll (compress s (bytes.take 64).toArray) (bytes.drop 64) else s
termination_by bytes.length
decreasing_by simp only [List.length_drop]; omega

/-- A number as eight bytes, the most significant first. -/
def lengthBytes (n : Nat) : List UInt8 :=
  (List.range 8).map fun i => (n >>> (8 * (7 - i))).toUInt8

/-- What is appended to a message of the given number of bytes. It fills up the last block. -/
def padding (n : Nat) : List UInt8 :=
  0x80 :: List.replicate ((119 - n % 64) % 64) 0 ++ lengthBytes (8 * n)

def wordBytes (w : UInt32) : List UInt8 :=
  [(w >>> 24).toUInt8, (w >>> 16).toUInt8, (w >>> 8).toUInt8, w.toUInt8]

/-- The thirty-two bytes of the chain. -/
def Chain.bytes (s : Chain) : List UInt8 :=
  [s.a, s.b, s.c, s.d, s.e, s.f, s.g, s.h].flatMap wordBytes

/-- The hash of a whole message. -/
def digest (message : List UInt8) : List UInt8 :=
  (compressAll initial (message ++ padding message.length)).bytes

/-- A hash in progress: the chain after all full blocks, the bytes of the unfinished block, and how many
bytes there were altogether. -/
structure Hasher where
  chain : Chain := initial
  pending : Array UInt8 := #[]
  length : Nat := 0

namespace Hasher

/-- Takes one more byte. -/
def push (h : Hasher) (b : UInt8) : Hasher :=
  let pending := h.pending.push b
  if pending.size = 64 then ⟨compress h.chain pending, #[], h.length + 1⟩
  else ⟨h.chain, pending, h.length + 1⟩

/-- Takes more bytes of the message. -/
def absorb (h : Hasher) (bytes : List UInt8) : Hasher :=
  bytes.foldl push h

/-- The hash of the bytes taken so far. -/
def finish (h : Hasher) : List UInt8 :=
  (compressAll h.chain (h.pending.toList ++ padding h.length)).bytes

end Hasher

theorem compressAll_block {s : Chain} {block rest : List UInt8} (h : block.length = 64) :
    compressAll s (block ++ rest) = compressAll (compress s block.toArray) rest := by
  rw [compressAll, if_pos (by simp only [List.length_append]; omega)]
  rw [List.take_left' h, List.drop_left' h]

/-- The bytes that a hasher still owes the chain, followed by more. -/
def Hasher.chainAfter (h : Hasher) (rest : List UInt8) : Chain :=
  compressAll h.chain (h.pending.toList ++ rest)

theorem Hasher.chainAfter_push (h : Hasher) (b : UInt8) (rest : List UInt8) :
    (h.push b).chainAfter rest = h.chainAfter (b :: rest) := by
  simp only [push, chainAfter]
  split
  · rename_i full
    have hl : (h.pending.toList ++ [b]).length = 64 := by simpa using full
    have hs : h.pending.toList ++ b :: rest = (h.pending.toList ++ [b]) ++ rest := by simp
    have ha : (h.pending.toList ++ [b]).toArray = h.pending.push b := Array.ext' (by simp)
    rw [hs, compressAll_block hl, ha]
    simp
  · simp

theorem Hasher.length_push (h : Hasher) (b : UInt8) : (h.push b).length = h.length + 1 := by
  simp only [push]
  split <;> rfl

theorem Hasher.chainAfter_absorb (h : Hasher) (bytes rest : List UInt8) :
    (h.absorb bytes).chainAfter rest = h.chainAfter (bytes ++ rest) := by
  induction bytes generalizing h with
  | nil => rfl
  | cons b bytes ih =>
    have := ih (h.push b)
    rw [absorb, List.foldl_cons]
    rw [absorb] at this
    rw [this, chainAfter_push, List.cons_append]

theorem Hasher.length_absorb (h : Hasher) (bytes : List UInt8) :
    (h.absorb bytes).length = h.length + bytes.length := by
  induction bytes generalizing h with
  | nil => rfl
  | cons b bytes ih =>
    have := ih (h.push b)
    rw [absorb, List.foldl_cons]
    rw [absorb] at this
    rw [this, length_push, List.length_cons]
    omega

/-- Taking a message byte by byte gives the hash of the whole. -/
theorem finish_absorb (message : List UInt8) :
    (({} : Hasher).absorb message).finish = digest message := by
  have h := Hasher.chainAfter_absorb {} message
    (padding (({} : Hasher).absorb message).length)
  have hl := Hasher.length_absorb {} message
  simp only [Hasher.chainAfter, List.nil_append] at h
  simp only [Hasher.finish, digest]
  rw [h]
  simp only [hl, Nat.zero_add]

/-- The published hash of the empty message. -/
example : digest [] =
    [0xe3, 0xb0, 0xc4, 0x42, 0x98, 0xfc, 0x1c, 0x14, 0x9a, 0xfb, 0xf4, 0xc8, 0x99, 0x6f, 0xb9, 0x24,
      0x27, 0xae, 0x41, 0xe4, 0x64, 0x9b, 0x93, 0x4c, 0xa4, 0x95, 0x99, 0x1b, 0x78, 0x52, 0xb8,
      0x55] := by
  decide +kernel

@[simp] theorem Hasher.absorb_append (h : Hasher) (xs ys : List UInt8) :
    h.absorb (xs ++ ys) = (h.absorb xs).absorb ys :=
  List.foldl_append

end InlineLinkage.Sha256
