import CustodySigner.Bytes

set_option autoImplicit false
set_option relaxedAutoImplicit false

/-!
SHA-256. A message is padded to whole blocks of 64 bytes; each block is stretched to 64 words, which
are mixed one by one into a state of eight 32-bit words.
-/

namespace CustodySigner.Sha256

/-- The fractional parts of the cube roots of the first 64 primes. -/
def roundConstants : List UInt32 :=
  [0x428a2f98, 0x71374491, 0xb5c0fbcf, 0xe9b5dba5, 0x3956c25b, 0x59f111f1, 0x923f82a4, 0xab1c5ed5,
   0xd807aa98, 0x12835b01, 0x243185be, 0x550c7dc3, 0x72be5d74, 0x80deb1fe, 0x9bdc06a7, 0xc19bf174,
   0xe49b69c1, 0xefbe4786, 0x0fc19dc6, 0x240ca1cc, 0x2de92c6f, 0x4a7484aa, 0x5cb0a9dc, 0x76f988da,
   0x983e5152, 0xa831c66d, 0xb00327c8, 0xbf597fc7, 0xc6e00bf3, 0xd5a79147, 0x06ca6351, 0x14292967,
   0x27b70a85, 0x2e1b2138, 0x4d2c6dfc, 0x53380d13, 0x650a7354, 0x766a0abb, 0x81c2c92e, 0x92722c85,
   0xa2bfe8a1, 0xa81a664b, 0xc24b8b70, 0xc76c51a3, 0xd192e819, 0xd6990624, 0xf40e3585, 0x106aa070,
   0x19a4c116, 0x1e376c08, 0x2748774c, 0x34b0bcb5, 0x391c0cb3, 0x4ed8aa4a, 0x5b9cca4f, 0x682e6ff3,
   0x748f82ee, 0x78a5636f, 0x84c87814, 0x8cc70208, 0x90befffa, 0xa4506ceb, 0xbef9a3f7, 0xc67178f2]

structure State where
  a : UInt32
  b : UInt32
  c : UInt32
  d : UInt32
  e : UInt32
  f : UInt32
  g : UInt32
  h : UInt32

/-- The fractional parts of the square roots of the first eight primes. -/
def State.initial : State :=
  ⟨0x6a09e667, 0xbb67ae85, 0x3c6ef372, 0xa54ff53a,
   0x510e527f, 0x9b05688c, 0x1f83d9ab, 0x5be0cd19⟩

def State.add (s t : State) : State :=
  ⟨s.a + t.a, s.b + t.b, s.c + t.c, s.d + t.d, s.e + t.e, s.f + t.f, s.g + t.g, s.h + t.h⟩

private def rotate (x : UInt32) (n : UInt32) : UInt32 :=
  (x >>> n) ||| (x <<< (32 - n))

private def stretchNear (x : UInt32) : UInt32 :=
  rotate x 17 ^^^ rotate x 19 ^^^ (x >>> 10)

private def stretchFar (x : UInt32) : UInt32 :=
  rotate x 7 ^^^ rotate x 18 ^^^ (x >>> 3)

/-- Appends `count` words to a schedule that is held latest word first. -/
def extend : (count : Nat) → List UInt32 → List UInt32
  | 0, w => w
  | count + 1, w =>
    extend count
      ((stretchNear (w.getD 1 0) + w.getD 6 0 + stretchFar (w.getD 14 0) + w.getD 15 0) :: w)

/-- Mixes one scheduled word, with its constant already added, into the state. -/
def State.round (s : State) (w : UInt32) : State :=
  let choice := (s.e &&& s.f) ^^^ (~~~s.e &&& s.g)
  let majority := (s.a &&& s.b) ^^^ (s.a &&& s.c) ^^^ (s.b &&& s.c)
  let t := s.h + (rotate s.e 6 ^^^ rotate s.e 11 ^^^ rotate s.e 25) + choice + w
  let u := (rotate s.a 2 ^^^ rotate s.a 13 ^^^ rotate s.a 22) + majority
  ⟨t + u, s.a, s.b, s.c, s.d + t, s.e, s.f, s.g⟩

/-- Mixes a block of sixteen words into the state. -/
def State.absorb (s : State) (block : List UInt32) : State :=
  let schedule := (extend 48 block.reverse).reverse
  s.add ((List.zipWith (· + ·) schedule roundConstants).foldl State.round s)

/-- The words spelled by a byte string, most significant byte first. -/
def wordsOf : Bytes → List UInt32
  | x0 :: x1 :: x2 :: x3 :: rest =>
    (x0.toUInt32 <<< 24 ||| x1.toUInt32 <<< 16 ||| x2.toUInt32 <<< 8 ||| x3.toUInt32) :: wordsOf rest
  | _ => []

/-- The message, a one bit, zeros up to a block boundary, and the length of the message in bits. -/
def padded (message : Bytes) : Bytes :=
  message ++ 0x80 :: List.replicate ((119 - message.length % 64) % 64) 0
    ++ Bytes.ofNat 8 (8 * message.length)

/-- The bytes of the state, 4 for each word. -/
def State.toBytes (s : State) : Bytes :=
  [s.a, s.b, s.c, s.d, s.e, s.f, s.g, s.h].flatMap fun w => Bytes.ofNat 4 w.toNat

def digest (message : Bytes) : Bytes :=
  let input := padded message
  ((pieces 16 (input.length / 64) (wordsOf input)).foldl State.absorb State.initial).toBytes

@[simp] theorem length_digest (message : Bytes) : (digest message).length = 32 := by
  simp [digest, State.toBytes]

end CustodySigner.Sha256
