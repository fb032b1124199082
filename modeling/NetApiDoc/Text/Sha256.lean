/-!
The SHA-256 digest of a byte string, as the Secure Hash Standard defines it. The message is
padded with a one bit, zeros and its length in bits to whole blocks of 64 bytes; each block is
spread into a schedule of 64 words and mixed into eight 32-bit words by 64 rounds, and the
digest is those eight words, written as 64 lowercase hexadecimal digits.

The padding lemma says that the padded message fills whole blocks.
-/

set_option autoImplicit false

namespace NetApiDoc.Text.Sha256

def roundConstants : Array UInt32 := #[
  0x428a2f98, 0x71374491, 0xb5c0fbcf, 0xe9b5dba5, 0x3956c25b, 0x59f111f1, 0x923f82a4, 0xab1c5ed5,
  0xd807aa98, 0x12835b01, 0x243185be, 0x550c7dc3, 0x72be5d74, 0x80deb1fe, 0x9bdc06a7, 0xc19bf174,
  0xe49b69c1, 0xefbe4786, 0x0fc19dc6, 0x240ca1cc, 0x2de92c6f, 0x4a7484aa, 0x5cb0a9dc, 0x76f988da,
  0x983e5152, 0xa831c66d, 0xb00327c8, 0xbf597fc7, 0xc6e00bf3, 0xd5a79147, 0x06ca6351, 0x14292967,
  0x27b70a85, 0x2e1b2138, 0x4d2c6dfc, 0x53380d13, 0x650a7354, 0x766a0abb, 0x81c2c92e, 0x92722c85,
  0xa2bfe8a1, 0xa81a664b, 0xc24b8b70, 0xc76c51a3, 0xd192e819, 0xd6990624, 0xf40e3585, 0x106aa070,
  0x19a4c116, 0x1e376c08, 0x2748774c, 0x34b0bcb5, 0x391c0cb3, 0x4ed8aa4a, 0x5b9cca4f, 0x682e6ff3,
  0x748f82ee, 0x78a5636f, 0x84c87814, 0x8cc70208, 0x90befffa, 0xa4506ceb, 0xbef9a3f7, 0xc67178f2]

structure State where
  a : UInt32
  b : UInt32
  c : UInt32
  d : UInt32
  e : UInt32
  f : UInt32
  g : UInt32
  h : UInt32
  deriving DecidableEq, Repr

def State.initial : State :=
  ⟨0x6a09e667, 0xbb67ae85, 0x3c6ef372, 0xa54ff53a, 0x510e527f, 0x9b05688c, 0x1f83d9ab, 0x5be0cd19⟩

def rotateRight (x n : UInt32) : UInt32 := (x >>> n) ||| (x <<< (32 - n))

def bigSigma0 (x : UInt32) : UInt32 := rotateRight x 2 ^^^ rotateRight x 13 ^^^ rotateRight x 22

def bigSigma1 (x : UInt32) : UInt32 := rotateRight x 6 ^^^ rotateRight x 11 ^^^ rotateRight x 25

def smallSigma0 (x : UInt32) : UInt32 := rotateRight x 7 ^^^ rotateRight x 18 ^^^ (x >>> 3)

def smallSigma1 (x : UInt32) : UInt32 := rotateRight x 17 ^^^ rotateRight x 19 ^^^ (x >>> 10)

def choose (e f g : UInt32) : UInt32 := (e &&& f) ^^^ (~~~e &&& g)

def majority (a b c : UInt32) : UInt32 := (a &&& b) ^^^ (a &&& c) ^^^ (b &&& c)

def wordOf (bytes : List UInt8) : UInt32 :=
  (bytes.take 4).foldl (fun w b => (w <<< 8) ||| b.toUInt32) 0

def schedule (block : List UInt8) : Array UInt32 :=
  let first := (List.range 16).foldl (fun w i => w.push (wordOf (block.drop (4 * i)))) #[]
  (List.range 48).foldl (fun w i =>
    w.push (smallSigma1 (w.getD (i + 14) 0) + w.getD (i + 9) 0 + smallSigma0 (w.getD (i + 1) 0) +
      w.getD i 0)) first

def State.round (s : State) (k w : UInt32) : State :=
  let t1 := s.h + bigSigma1 s.e + choose s.e s.f s.g + k + w
  let t2 := bigSigma0 s.a + majority s.a s.b s.c
  ⟨t1 + t2, s.a, s.b, s.c, s.d + t1, s.e, s.f, s.g⟩

def State.add (s t : State) : State :=
  ⟨s.a + t.a, s.b + t.b, s.c + t.c, s.d + t.d, s.e + t.e, s.f + t.f, s.g + t.g, s.h + t.h⟩

def State.compress (s : State) (block : List UInt8) : State :=
  let w := schedule block
  s.add ((List.range 64).foldl (fun t i => t.round (roundConstants.getD i 0) (w.getD i 0)) s)

def zeroCount (length : Nat) : Nat := (119 - length % 64) % 64

def padded (message : List UInt8) : List UInt8 :=
  let bits := message.length * 8
  message ++ [0x80] ++ List.replicate (zeroCount message.length) 0 ++
    (List.range 8).reverse.map fun i => UInt8.ofNat (bits / Nat.pow 256 i % 256)

def blocks : Nat → List UInt8 → List (List UInt8)
  | 0, _ => []
  | _, [] => []
  | fuel + 1, bytes => bytes.take 64 :: blocks fuel (bytes.drop 64)

def State.words (s : State) : List UInt32 := [s.a, s.b, s.c, s.d, s.e, s.f, s.g, s.h]

def hexDigit (n : Nat) : Char :=
  if n < 10 then Char.ofNat (48 + n) else Char.ofNat (87 + n)

def hexWord (w : UInt32) : String :=
  String.ofList ((List.range 8).reverse.map fun i => hexDigit (w.toNat / Nat.pow 16 i % 16))

theorem padded_length (message : List UInt8) : (padded message).length % 64 = 0 := by
  simp only [padded, zeroCount, List.length_append, List.length_singleton,
    List.length_replicate, List.length_map, List.length_reverse, List.length_range]
  omega

end Sha256

open Sha256 in
def sha256 (message : List UInt8) : List UInt32 :=
  let p := padded message
  ((blocks p.length p).foldl State.compress State.initial).words

def sha256Hex (s : String) : String :=
  String.join ((sha256 s.toUTF8.toList).map Sha256.hexWord)

end NetApiDoc.Text
