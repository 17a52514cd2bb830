import Mathlib.Algebra.Group.Nat.Defs
import Mathlib.Data.List.Basic

/-! The SHA-2 family over byte lists, parametrised by its word size and its
constants. Words are natural numbers below `2 ^ bits`, so that the kernel can
evaluate a digest. A digest has the declared number of bytes
(`digest_length`), whatever the message. -/
namespace GuestComponents.Lib.Sha2

/-- Two rotations and a last rotation or shift, as the four mixing functions
of the family use them. -/
structure Mix where
  first : Nat
  second : Nat
  third : Nat

/-- The constants of one compression function. -/
structure Params where
  bits : Nat
  rounds : List Nat
  initial : List Nat
  upper0 : Mix
  upper1 : Mix
  lower0 : Mix
  lower1 : Mix
  /-- Words of the final state that the digest keeps. -/
  kept : Nat

namespace Params

variable (p : Params)

def modulus : Nat := 2 ^ p.bits

def wordBytes : Nat := p.bits / 8

def rotr (x n : Nat) : Nat := (x >>> n ||| x <<< (p.bits - n)) % p.modulus

def rotations (m : Mix) (x : Nat) : Nat :=
  p.rotr x m.first ^^^ p.rotr x m.second ^^^ p.rotr x m.third

def shifted (m : Mix) (x : Nat) : Nat :=
  p.rotr x m.first ^^^ p.rotr x m.second ^^^ (x >>> m.third)

/-- The next word of the message schedule, from the sixteen before it. -/
def schedule (window : List Nat) : Nat :=
  (p.shifted p.lower1 (window.getD 14 0) + window.getD 9 0 +
    p.shifted p.lower0 (window.getD 1 0) + window.getD 0 0) % p.modulus

def round (state : List Nat) (k w : Nat) : List Nat :=
  match state with
  | [a, b, c, d, e, f, g, h] =>
    let t1 := h + p.rotations p.upper1 e + ((e &&& f) ^^^ ((p.modulus - 1 - e) &&& g)) + k + w
    let t2 := p.rotations p.upper0 a + ((a &&& b) ^^^ (a &&& c) ^^^ (b &&& c))
    [(t1 + t2) % p.modulus, a, b, c, (d + t1) % p.modulus, e, f, g]
  | other => other

def runRounds : List Nat → List Nat → List Nat → List Nat
  | [], _, state => state
  | k :: ks, window, state =>
    runRounds ks (window.tail ++ [p.schedule window]) (p.round state k (window.headD 0))

/-- The big-endian words of a block. -/
def wordsOf (count : Nat) (block : List Nat) : List Nat :=
  (List.range count).map fun i =>
    ((block.drop (i * p.wordBytes)).take p.wordBytes).foldl (fun acc b => acc * 256 + b) 0

def compress (state block : List Nat) : List Nat :=
  List.zipWith (fun a b => (a + b) % p.modulus) state
    (p.runRounds p.rounds (p.wordsOf 16 block) state)

/-- The low `count` bytes of a number, most significant first. -/
def bytesOf (count n : Nat) : List Nat :=
  (List.range count).reverse.map fun i => n >>> (8 * i) % 256

def pad (message : List Nat) : List Nat :=
  let block := 16 * p.wordBytes
  let tail := 2 * p.wordBytes
  message ++ 0x80 :: List.replicate ((2 * block - tail - 1 - message.length % block) % block) 0 ++
    bytesOf tail (8 * message.length)

def absorb : Nat → List Nat → List Nat → List Nat
  | 0, state, _ => state
  | n + 1, state, message =>
    absorb n (p.compress state (message.take (16 * p.wordBytes))) (message.drop (16 * p.wordBytes))

/-- The digest of a message. -/
def digest (message : List UInt8) : List UInt8 :=
  let padded := p.pad (message.map UInt8.toNat)
  let final := p.absorb (padded.length / (16 * p.wordBytes)) p.initial padded
  (List.range p.kept).flatMap fun i => (bytesOf p.wordBytes (final.getD i 0)).map UInt8.ofNat

theorem bytesOf_length (count n : Nat) : (bytesOf count n).length = count := by
  simp [bytesOf]

/-- The length of a digest depends on the parameters alone. -/
theorem digest_length (message : List UInt8) :
    (p.digest message).length = p.kept * p.wordBytes := by
  simp [digest, List.length_flatMap, bytesOf_length]

/-- HMAC over the digest: the key, hashed first when it is longer than a block,
fills one block, and is combined with the two pads. -/
def hmac (key message : List UInt8) : List UInt8 :=
  let block := 16 * p.wordBytes
  let short := if block < key.length then p.digest key else key
  let filled := short ++ List.replicate (block - short.length) 0
  p.digest (filled.map (· ^^^ 0x5c) ++ p.digest (filled.map (· ^^^ 0x36) ++ message))

theorem hmac_length (key message : List UInt8) :
    (p.hmac key message).length = p.kept * p.wordBytes :=
  p.digest_length _

end Params

def rounds256 : List Nat :=
  [0x428a2f98, 0x71374491, 0xb5c0fbcf, 0xe9b5dba5, 0x3956c25b, 0x59f111f1, 0x923f82a4, 0xab1c5ed5,
   0xd807aa98, 0x12835b01, 0x243185be, 0x550c7dc3, 0x72be5d74, 0x80deb1fe, 0x9bdc06a7, 0xc19bf174,
   0xe49b69c1, 0xefbe4786, 0x0fc19dc6, 0x240ca1cc, 0x2de92c6f, 0x4a7484aa, 0x5cb0a9dc, 0x76f988da,
   0x983e5152, 0xa831c66d, 0xb00327c8, 0xbf597fc7, 0xc6e00bf3, 0xd5a79147, 0x06ca6351, 0x14292967,
   0x27b70a85, 0x2e1b2138, 0x4d2c6dfc, 0x53380d13, 0x650a7354, 0x766a0abb, 0x81c2c92e, 0x92722c85,
   0xa2bfe8a1, 0xa81a664b, 0xc24b8b70, 0xc76c51a3, 0xd192e819, 0xd6990624, 0xf40e3585, 0x106aa070,
   0x19a4c116, 0x1e376c08, 0x2748774c, 0x34b0bcb5, 0x391c0cb3, 0x4ed8aa4a, 0x5b9cca4f, 0x682e6ff3,
   0x748f82ee, 0x78a5636f, 0x84c87814, 0x8cc70208, 0x90befffa, 0xa4506ceb, 0xbef9a3f7, 0xc67178f2]

def sha256 : Params where
  bits := 32
  rounds := rounds256
  initial := [0x6a09e667, 0xbb67ae85, 0x3c6ef372, 0xa54ff53a,
    0x510e527f, 0x9b05688c, 0x1f83d9ab, 0x5be0cd19]
  upper0 := ⟨2, 13, 22⟩
  upper1 := ⟨6, 11, 25⟩
  lower0 := ⟨7, 18, 3⟩
  lower1 := ⟨17, 19, 10⟩
  kept := 8

def rounds512 : List Nat :=
  [0x428a2f98d728ae22, 0x7137449123ef65cd, 0xb5c0fbcfec4d3b2f, 0xe9b5dba58189dbbc,
   0x3956c25bf348b538, 0x59f111f1b605d019, 0x923f82a4af194f9b, 0xab1c5ed5da6d8118,
   0xd807aa98a3030242, 0x12835b0145706fbe, 0x243185be4ee4b28c, 0x550c7dc3d5ffb4e2,
   0x72be5d74f27b896f, 0x80deb1fe3b1696b1, 0x9bdc06a725c71235, 0xc19bf174cf692694,
   0xe49b69c19ef14ad2, 0xefbe4786384f25e3, 0x0fc19dc68b8cd5b5, 0x240ca1cc77ac9c65,
   0x2de92c6f592b0275, 0x4a7484aa6ea6e483, 0x5cb0a9dcbd41fbd4, 0x76f988da831153b5,
   0x983e5152ee66dfab, 0xa831c66d2db43210, 0xb00327c898fb213f, 0xbf597fc7beef0ee4,
   0xc6e00bf33da88fc2, 0xd5a79147930aa725, 0x06ca6351e003826f, 0x142929670a0e6e70,
   0x27b70a8546d22ffc, 0x2e1b21385c26c926, 0x4d2c6dfc5ac42aed, 0x53380d139d95b3df,
   0x650a73548baf63de, 0x766a0abb3c77b2a8, 0x81c2c92e47edaee6, 0x92722c851482353b,
   0xa2bfe8a14cf10364, 0xa81a664bbc423001, 0xc24b8b70d0f89791, 0xc76c51a30654be30,
   0xd192e819d6ef5218, 0xd69906245565a910, 0xf40e35855771202a, 0x106aa07032bbd1b8,
   0x19a4c116b8d2d0c8, 0x1e376c085141ab53, 0x2748774cdf8eeb99, 0x34b0bcb5e19b48a8,
   0x391c0cb3c5c95a63, 0x4ed8aa4ae3418acb, 0x5b9cca4f7763e373, 0x682e6ff3d6b2b8a3,
   0x748f82ee5defb2fc, 0x78a5636f43172f60, 0x84c87814a1f0ab72, 0x8cc702081a6439ec,
   0x90befffa23631e28, 0xa4506cebde82bde9, 0xbef9a3f7b2c67915, 0xc67178f2e372532b,
   0xca273eceea26619c, 0xd186b8c721c0c207, 0xeada7dd6cde0eb1e, 0xf57d4f7fee6ed178,
   0x06f067aa72176fba, 0x0a637dc5a2c898a6, 0x113f9804bef90dae, 0x1b710b35131c471b,
   0x28db77f523047d84, 0x32caab7b40c72493, 0x3c9ebe0a15c9bebc, 0x431d67c49c100d4c,
   0x4cc5d4becb3e42b6, 0x597f299cfc657e2a, 0x5fcb6fab3ad6faec, 0x6c44198c4a475817]

def sha512 : Params where
  bits := 64
  rounds := rounds512
  initial := [0x6a09e667f3bcc908, 0xbb67ae8584caa73b, 0x3c6ef372fe94f82b, 0xa54ff53a5f1d36f1,
    0x510e527fade682d1, 0x9b05688c2b3e6c1f, 0x1f83d9abfb41bd6b, 0x5be0cd19137e2179]
  upper0 := ⟨28, 34, 39⟩
  upper1 := ⟨14, 18, 41⟩
  lower0 := ⟨1, 8, 7⟩
  lower1 := ⟨19, 61, 6⟩
  kept := 8

def sha384 : Params :=
  { sha512 with
    initial := [0xcbbb9d5dc1059ed8, 0x629a292a367cd507, 0x9159015a3070dd17, 0x152fecd8f70e5939,
      0x67332667ffc00b31, 0x8eb44a8768581511, 0xdb0c2e0d64f98fa7, 0x47b5481dbefa4fa4]
    kept := 6 }

end GuestComponents.Lib.Sha2
