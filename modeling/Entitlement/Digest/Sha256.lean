/-!
# SHA-256

* `sha256` : the digest of a list of bytes, 32 bytes;
* `Sha256.pad` : the message with its end mark and its length; `Sha256.blocks` : in blocks of 64
  bytes; `Sha256.compress` : one block into the state.
-/

namespace Entitlement.Digest

namespace Sha256

/-- The first 32 bits of the fractional parts of the cube roots of the first 64 primes. -/
def constants : List UInt32 :=
  [0x428a2f98, 0x71374491, 0xb5c0fbcf, 0xe9b5dba5, 0x3956c25b, 0x59f111f1, 0x923f82a4, 0xab1c5ed5,
   0xd807aa98, 0x12835b01, 0x243185be, 0x550c7dc3, 0x72be5d74, 0x80deb1fe, 0x9bdc06a7, 0xc19bf174,
   0xe49b69c1, 0xefbe4786, 0x0fc19dc6, 0x240ca1cc, 0x2de92c6f, 0x4a7484aa, 0x5cb0a9dc, 0x76f988da,
   0x983e5152, 0xa831c66d, 0xb00327c8, 0xbf597fc7, 0xc6e00bf3, 0xd5a79147, 0x06ca6351, 0x14292967,
   0x27b70a85, 0x2e1b2138, 0x4d2c6dfc, 0x53380d13, 0x650a7354, 0x766a0abb, 0x81c2c92e, 0x92722c85,
   0xa2bfe8a1, 0xa81a664b, 0xc24b8b70, 0xc76c51a3, 0xd192e819, 0xd6990624, 0xf40e3585, 0x106aa070,
   0x19a4c116, 0x1e376c08, 0x2748774c, 0x34b0bcb5, 0x391c0cb3, 0x4ed8aa4a, 0x5b9cca4f, 0x682e6ff3,
   0x748f82ee, 0x78a5636f, 0x84c87814, 0x8cc70208, 0x90befffa, 0xa4506ceb, 0xbef9a3f7, 0xc67178f2]

structure State where
  (a b c d e f g h : UInt32)
  deriving DecidableEq, Repr

/-- The first 32 bits of the fractional parts of the square roots of the first 8 primes. -/
def start : State :=
  ⟨0x6a09e667, 0xbb67ae85, 0x3c6ef372, 0xa54ff53a, 0x510e527f, 0x9b05688c, 0x1f83d9ab, 0x5be0cd19⟩

def rotate (x n : UInt32) : UInt32 := (x >>> n) ||| (x <<< (32 - n))

/-- Four bytes, the most significant first. -/
def word (a b c d : UInt8) : UInt32 :=
  (a.toUInt32 <<< 24) ||| (b.toUInt32 <<< 16) ||| (c.toUInt32 <<< 8) ||| d.toUInt32

def words : List UInt8 → List UInt32
  | a :: b :: c :: d :: rest => word a b c d :: words rest
  | _ => []

def wordBytes (w : UInt32) : List UInt8 :=
  [(w >>> 24).toUInt8, (w >>> 16).toUInt8, (w >>> 8).toUInt8, w.toUInt8]

/-- The next `n` words of a schedule, whose last 16 words are given. -/
def extend : Nat → List UInt32 → List UInt32
  | 0, _ => []
  | n + 1, last =>
    let x := last.getD 1 0
    let y := last.getD 14 0
    let s₀ := rotate x 7 ^^^ rotate x 18 ^^^ (x >>> 3)
    let s₁ := rotate y 17 ^^^ rotate y 19 ^^^ (y >>> 10)
    let next := last.getD 0 0 + s₀ + last.getD 9 0 + s₁
    next :: extend n (last.drop 1 ++ [next])

def round (s : State) (k w : UInt32) : State :=
  let s₁ := rotate s.e 6 ^^^ rotate s.e 11 ^^^ rotate s.e 25
  let choice := (s.e &&& s.f) ^^^ (~~~s.e &&& s.g)
  let t₁ := s.h + s₁ + choice + k + w
  let s₀ := rotate s.a 2 ^^^ rotate s.a 13 ^^^ rotate s.a 22
  let majority := (s.a &&& s.b) ^^^ (s.a &&& s.c) ^^^ (s.b &&& s.c)
  ⟨t₁ + s₀ + majority, s.a, s.b, s.c, s.d + t₁, s.e, s.f, s.g⟩

def State.add (s t : State) : State :=
  ⟨s.a + t.a, s.b + t.b, s.c + t.c, s.d + t.d, s.e + t.e, s.f + t.f, s.g + t.g, s.h + t.h⟩

def compress (s : State) (block : List UInt8) : State :=
  let first := words block
  s.add ((constants.zip (first ++ extend 48 first)).foldl (fun t kw => round t kw.1 kw.2) s)

/-- The number as eight bytes, the most significant first. -/
def lengthBytes (n : Nat) : List UInt8 :=
  [56, 48, 40, 32, 24, 16, 8, 0].map fun shift => .ofNat (n >>> shift)

/-- One bit, zeros up to eight bytes before the end of a block, and the length in bits. -/
def pad (message : List UInt8) : List UInt8 :=
  message ++ 0x80 :: List.replicate ((119 - message.length % 64) % 64) 0 ++
    lengthBytes (message.length * 8)

def blocks (bytes : List UInt8) : List (List UInt8) :=
  if _h : bytes = [] then [] else bytes.take 64 :: blocks (bytes.drop 64)
termination_by bytes.length
decreasing_by
  have := List.length_pos_iff.2 _h
  simp only [List.length_drop]
  omega

def State.bytes (s : State) : List UInt8 :=
  [s.a, s.b, s.c, s.d, s.e, s.f, s.g, s.h].flatMap wordBytes

end Sha256

def sha256 (message : List UInt8) : List UInt8 :=
  ((Sha256.blocks (Sha256.pad message)).foldl Sha256.compress Sha256.start).bytes

end Entitlement.Digest
