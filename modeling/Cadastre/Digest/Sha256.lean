import Cadastre.Text.Utf8

/-!
The SHA-256 digest of a byte sequence. A message is padded to whole blocks of sixty-four bytes,
and each block is folded into a chain of eight words.
-/

namespace Cadastre.Digest

/-- Eight words: the state between blocks, and inside a block between rounds. -/
structure Chain where
  a : UInt32
  b : UInt32
  c : UInt32
  d : UInt32
  e : UInt32
  f : UInt32
  g : UInt32
  h : UInt32

def Chain.start : Chain :=
  ⟨0x6a09e667, 0xbb67ae85, 0x3c6ef372, 0xa54ff53a, 0x510e527f, 0x9b05688c, 0x1f83d9ab, 0x5be0cd19⟩

def roundConstants : List UInt32 :=
  [0x428a2f98, 0x71374491, 0xb5c0fbcf, 0xe9b5dba5, 0x3956c25b, 0x59f111f1, 0x923f82a4, 0xab1c5ed5,
    0xd807aa98, 0x12835b01, 0x243185be, 0x550c7dc3, 0x72be5d74, 0x80deb1fe, 0x9bdc06a7, 0xc19bf174,
    0xe49b69c1, 0xefbe4786, 0x0fc19dc6, 0x240ca1cc, 0x2de92c6f, 0x4a7484aa, 0x5cb0a9dc, 0x76f988da,
    0x983e5152, 0xa831c66d, 0xb00327c8, 0xbf597fc7, 0xc6e00bf3, 0xd5a79147, 0x06ca6351, 0x14292967,
    0x27b70a85, 0x2e1b2138, 0x4d2c6dfc, 0x53380d13, 0x650a7354, 0x766a0abb, 0x81c2c92e, 0x92722c85,
    0xa2bfe8a1, 0xa81a664b, 0xc24b8b70, 0xc76c51a3, 0xd192e819, 0xd6990624, 0xf40e3585, 0x106aa070,
    0x19a4c116, 0x1e376c08, 0x2748774c, 0x34b0bcb5, 0x391c0cb3, 0x4ed8aa4a, 0x5b9cca4f, 0x682e6ff3,
    0x748f82ee, 0x78a5636f, 0x84c87814, 0x8cc70208, 0x90befffa, 0xa4506ceb, 0xbef9a3f7, 0xc67178f2]

def rotate (x n : UInt32) : UInt32 :=
  (x >>> n) ||| (x <<< (32 - n))

/-- Sixteen words of a block, each from four bytes, highest first. -/
def words : Bytes → List UInt32
  | a :: b :: c :: d :: rest =>
    ((a.toUInt32 <<< 24) ||| (b.toUInt32 <<< 16) ||| (c.toUInt32 <<< 8) ||| d.toUInt32)
      :: words rest
  | _ => []

/-- One more word of the schedule, from four earlier ones. -/
def extend (schedule : Array UInt32) : Array UInt32 :=
  let back (n : Nat) : UInt32 := schedule.getD (schedule.size - n) 0
  let late := rotate (back 15) 7 ^^^ rotate (back 15) 18 ^^^ (back 15 >>> 3)
  let soon := rotate (back 2) 17 ^^^ rotate (back 2) 19 ^^^ (back 2 >>> 10)
  schedule.push (back 16 + late + back 7 + soon)

def schedule (block : Bytes) : Array UInt32 :=
  iterate extend 48 (words block).toArray
where
  /-- `f` applied `n` times. -/
  iterate (f : Array UInt32 → Array UInt32) : Nat → Array UInt32 → Array UInt32
    | 0, x => x
    | n + 1, x => iterate f n (f x)

def Chain.round (s : Chain) (input : UInt32 × UInt32) : Chain :=
  let mixE := rotate s.e 6 ^^^ rotate s.e 11 ^^^ rotate s.e 25
  let choice := (s.e &&& s.f) ^^^ ((~~~ s.e) &&& s.g)
  let first := s.h + mixE + choice + input.1 + input.2
  let mixA := rotate s.a 2 ^^^ rotate s.a 13 ^^^ rotate s.a 22
  let majority := (s.a &&& s.b) ^^^ (s.a &&& s.c) ^^^ (s.b &&& s.c)
  ⟨first + mixA + majority, s.a, s.b, s.c, s.d + first, s.e, s.f, s.g⟩

def Chain.absorb (s : Chain) (block : Bytes) : Chain :=
  let t := (roundConstants.zip (schedule block).toList).foldl Chain.round s
  ⟨s.a + t.a, s.b + t.b, s.c + t.c, s.d + t.d, s.e + t.e, s.f + t.f, s.g + t.g, s.h + t.h⟩

def bigEndian64 (n : UInt64) : Bytes :=
  ([56, 48, 40, 32, 24, 16, 8, 0] : List UInt64).map fun shift => (n >>> shift).toUInt8

/-- The message with a one bit, zeros up to eight bytes below a whole block, and its length in
bits. -/
def pad (message : Bytes) : Bytes :=
  let zeros := (119 - message.length % 64) % 64
  message ++ [0x80] ++ List.replicate zeros 0 ++ bigEndian64 (UInt64.ofNat (8 * message.length))

def absorbBlocks : Nat → Chain → Bytes → Chain
  | 0, chain, _ => chain
  | count + 1, chain, bytes => absorbBlocks count (chain.absorb (bytes.take 64)) (bytes.drop 64)

def Chain.bytes (s : Chain) : Bytes :=
  [s.a, s.b, s.c, s.d, s.e, s.f, s.g, s.h].flatMap fun (word : UInt32) =>
    [(word >>> 24).toUInt8, (word >>> 16).toUInt8, (word >>> 8).toUInt8, word.toUInt8]

def sha256 (message : Bytes) : Bytes :=
  let padded := pad message
  (absorbBlocks (padded.length / 64) Chain.start padded).bytes

@[simp] theorem length_sha256 (message : Bytes) : (sha256 message).length = 32 := by
  simp [sha256, Chain.bytes]

end Cadastre.Digest
