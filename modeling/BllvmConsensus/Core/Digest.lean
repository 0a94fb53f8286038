/-
Module: BllvmConsensus.Core.Digest
Layer: Core
Purpose: The two hash functions the crate calls through the `sha2` and `ripemd` crates, written out
  as functions on byte lists so that digests of concrete preimages can be evaluated: SHA-256
  (`Sha256::digest`), RIPEMD-160 (`Ripemd160::digest`), and the double SHA-256 the crate uses for
  signing hashes and block hashes.
Trusted boundary: the round constants and message schedules below are the published ones of the
  two hash functions; the test vectors at the end check both on the standard test message.
Main exports: sha256, ripemd160, doubleSha256, sha256_length
-/
import BllvmConsensus.Core.Types

namespace BllvmConsensus.Digest

/-! ### Words and padding -/

/-- Rotate a 32-bit word right by `n` bits. -/
def rotr (x : UInt32) (n : UInt32) : UInt32 := (x >>> n) ||| (x <<< (32 - n))

/-- Rotate a 32-bit word left by `n` bits. -/
def rotl (x : UInt32) (n : UInt32) : UInt32 := (x <<< n) ||| (x >>> (32 - n))

/-- The `k` low bytes of `n`, least significant first. -/
def leBytes (n : Nat) : Nat → ByteString
  | 0 => []
  | k + 1 => (n % 256).toUInt8 :: leBytes (n / 256) k

/-- Cut a byte list into 64-byte blocks. -/
def blocks : Nat → ByteString → List ByteString
  | 0, _ => []
  | fuel + 1, bytes => if bytes.isEmpty then [] else bytes.take 64 :: blocks fuel (bytes.drop 64)

/-- Merkle–Damgård padding shared by both hashes: `0x80`, zeros up to 56 mod 64, then the bit
length as eight bytes in the order `length` gives. -/
def pad (length : Nat → ByteString) (message : ByteString) : ByteString :=
  message ++ [0x80] ++ List.replicate ((119 - message.length % 64) % 64) 0 ++
    length (8 * message.length)

/-! ### SHA-256 -/

/-- The 64 SHA-256 round constants. -/
def sha256K : List UInt32 := [
  0x428a2f98, 0x71374491, 0xb5c0fbcf, 0xe9b5dba5, 0x3956c25b, 0x59f111f1, 0x923f82a4, 0xab1c5ed5,
  0xd807aa98, 0x12835b01, 0x243185be, 0x550c7dc3, 0x72be5d74, 0x80deb1fe, 0x9bdc06a7, 0xc19bf174,
  0xe49b69c1, 0xefbe4786, 0x0fc19dc6, 0x240ca1cc, 0x2de92c6f, 0x4a7484aa, 0x5cb0a9dc, 0x76f988da,
  0x983e5152, 0xa831c66d, 0xb00327c8, 0xbf597fc7, 0xc6e00bf3, 0xd5a79147, 0x06ca6351, 0x14292967,
  0x27b70a85, 0x2e1b2138, 0x4d2c6dfc, 0x53380d13, 0x650a7354, 0x766a0abb, 0x81c2c92e, 0x92722c85,
  0xa2bfe8a1, 0xa81a664b, 0xc24b8b70, 0xc76c51a3, 0xd192e819, 0xd6990624, 0xf40e3585, 0x106aa070,
  0x19a4c116, 0x1e376c08, 0x2748774c, 0x34b0bcb5, 0x391c0cb3, 0x4ed8aa4a, 0x5b9cca4f, 0x682e6ff3,
  0x748f82ee, 0x78a5636f, 0x84c87814, 0x8cc70208, 0x90befffa, 0xa4506ceb, 0xbef9a3f7, 0xc67178f2]

/-- The SHA-256 initial chaining value. -/
def sha256Init : List UInt32 :=
  [0x6a09e667, 0xbb67ae85, 0x3c6ef372, 0xa54ff53a, 0x510e527f, 0x9b05688c, 0x1f83d9ab, 0x5be0cd19]

/-- Big-endian 32-bit words of a block. -/
def wordsBE : ByteString → List UInt32
  | b0 :: b1 :: b2 :: b3 :: rest =>
      ((b0.toUInt32 <<< 24) ||| (b1.toUInt32 <<< 16) ||| (b2.toUInt32 <<< 8) ||| b3.toUInt32) ::
        wordsBE rest
  | _ => []

/-- Extend the message schedule by `n` words. The schedule is kept newest first, so `w[t-k]` is
position `k - 1`. -/
def sha256Schedule : Nat → List UInt32 → List UInt32
  | 0, w => w
  | n + 1, w =>
      let s0 (x : UInt32) := rotr x 7 ^^^ rotr x 18 ^^^ (x >>> 3)
      let s1 (x : UInt32) := rotr x 17 ^^^ rotr x 19 ^^^ (x >>> 10)
      sha256Schedule n ((s1 (w.getD 1 0) + w.getD 6 0 + s0 (w.getD 14 0) + w.getD 15 0) :: w)

/-- One SHA-256 round on the working variables `a, …, h`. -/
def sha256Round (v : List UInt32) (kw : UInt32 × UInt32) : List UInt32 :=
  match v with
  | [a, b, c, d, e, f, g, h] =>
      let t1 := h + (rotr e 6 ^^^ rotr e 11 ^^^ rotr e 25) + ((e &&& f) ^^^ ((~~~ e) &&& g)) +
        kw.1 + kw.2
      let t2 := (rotr a 2 ^^^ rotr a 13 ^^^ rotr a 22) + ((a &&& b) ^^^ (a &&& c) ^^^ (b &&& c))
      [t1 + t2, a, b, c, d + t1, e, f, g]
  | _ => v

/-- The SHA-256 compression of one 64-byte block into the chaining value. -/
def sha256Compress (state : List UInt32) (block : ByteString) : List UInt32 :=
  let w := (sha256Schedule 48 (wordsBE block).reverse).reverse
  List.zipWith (· + ·) state ((sha256K.zip w).foldl sha256Round state)

/-- Big-endian bytes of a 32-bit word. -/
def unwordBE (x : UInt32) : ByteString :=
  [(x >>> 24).toUInt8, (x >>> 16).toUInt8, (x >>> 8).toUInt8, x.toUInt8]

/-- `Sha256::digest`. -/
def sha256 (message : ByteString) : ByteString :=
  let padded := pad (fun n => (leBytes n 8).reverse) message
  ((blocks padded.length padded).foldl sha256Compress sha256Init).flatMap unwordBE

theorem sha256Compress_length {state : List UInt32} (h : state.length = 8) (block : ByteString) :
    (sha256Compress state block).length = 8 := by
  have round : ∀ (v : List UInt32) (kw : UInt32 × UInt32), v.length = 8 →
      (sha256Round v kw).length = 8 := by
    intro v kw hv
    match v, hv with
    | [_, _, _, _, _, _, _, _], _ => rfl
  have fold : ∀ (kws : List (UInt32 × UInt32)) (v : List UInt32), v.length = 8 →
      (kws.foldl sha256Round v).length = 8 := by
    intro kws
    induction kws with
    | nil => exact fun _ hv => hv
    | cons kw kws ih => exact fun v hv => ih _ (round v kw hv)
  simp [sha256Compress, List.length_zipWith, h, fold _ _ h]

/-- Writing out words of four bytes each gives four bytes per word. -/
theorem flatMap_words_length {unword : UInt32 → ByteString} (four : ∀ x, (unword x).length = 4)
    (words : List UInt32) : (words.flatMap unword).length = 4 * words.length := by
  induction words with
  | nil => rfl
  | cons x l ih =>
      rw [List.flatMap_cons, List.length_append, ih, four, List.length_cons]
      omega

/-- A compression function that keeps the chaining value's length keeps it over every block. -/
theorem foldl_length_eq {compress : List UInt32 → ByteString → List UInt32} {n : Nat}
    (keeps : ∀ state block, state.length = n → (compress state block).length = n) :
    ∀ (blocks : List ByteString) (state : List UInt32), state.length = n →
      (blocks.foldl compress state).length = n
  | [], _, h => h
  | block :: blocks, state, h => foldl_length_eq keeps blocks _ (keeps state block h)

/-- A SHA-256 digest is 32 bytes. -/
theorem sha256_length (message : ByteString) : (sha256 message).length = 32 := by
  rw [sha256, @flatMap_words_length unwordBE (fun _ => rfl),
    foldl_length_eq (fun _ block h => sha256Compress_length h block) _ sha256Init rfl]

/-- Double SHA-256, the digest of sighash preimages and block headers, as a `Hash`. -/
def doubleSha256 (message : ByteString) : Hash := ⟨sha256 (sha256 message), sha256_length _⟩

/-! ### RIPEMD-160 -/

/-- Little-endian 32-bit words of a block. -/
def wordsLE : ByteString → List UInt32
  | b0 :: b1 :: b2 :: b3 :: rest =>
      (b0.toUInt32 ||| (b1.toUInt32 <<< 8) ||| (b2.toUInt32 <<< 16) ||| (b3.toUInt32 <<< 24)) ::
        wordsLE rest
  | _ => []

/-- The RIPEMD-160 initial chaining value. -/
def ripemd160Init : List UInt32 := [0x67452301, 0xefcdab89, 0x98badcfe, 0x10325476, 0xc3d2e1f0]

/-- Message word order of the left line. -/
def ripemdR : List Nat := [
  0, 1, 2, 3, 4, 5, 6, 7, 8, 9, 10, 11, 12, 13, 14, 15,
  7, 4, 13, 1, 10, 6, 15, 3, 12, 0, 9, 5, 2, 14, 11, 8,
  3, 10, 14, 4, 9, 15, 8, 1, 2, 7, 0, 6, 13, 11, 5, 12,
  1, 9, 11, 10, 0, 8, 12, 4, 13, 3, 7, 15, 14, 5, 6, 2,
  4, 0, 5, 9, 7, 12, 2, 10, 14, 1, 3, 8, 11, 6, 15, 13]

/-- Message word order of the right line. -/
def ripemdR' : List Nat := [
  5, 14, 7, 0, 9, 2, 11, 4, 13, 6, 15, 8, 1, 10, 3, 12,
  6, 11, 3, 7, 0, 13, 5, 10, 14, 15, 8, 12, 4, 9, 1, 2,
  15, 5, 1, 3, 7, 14, 6, 9, 11, 8, 12, 2, 10, 0, 4, 13,
  8, 6, 4, 1, 3, 11, 15, 0, 5, 12, 2, 13, 9, 7, 10, 14,
  12, 15, 10, 4, 1, 5, 8, 7, 6, 2, 13, 14, 0, 3, 9, 11]

/-- Rotation amounts of the left line. -/
def ripemdS : List UInt32 := [
  11, 14, 15, 12, 5, 8, 7, 9, 11, 13, 14, 15, 6, 7, 9, 8,
  7, 6, 8, 13, 11, 9, 7, 15, 7, 12, 15, 9, 11, 7, 13, 12,
  11, 13, 6, 7, 14, 9, 13, 15, 14, 8, 13, 6, 5, 12, 7, 5,
  11, 12, 14, 15, 14, 15, 9, 8, 9, 14, 5, 6, 8, 6, 5, 12,
  9, 15, 5, 11, 6, 8, 13, 12, 5, 12, 13, 14, 11, 8, 5, 6]

/-- Rotation amounts of the right line. -/
def ripemdS' : List UInt32 := [
  8, 9, 9, 11, 13, 15, 15, 5, 7, 7, 8, 11, 14, 14, 12, 6,
  9, 13, 15, 7, 12, 8, 9, 11, 7, 7, 12, 7, 6, 15, 13, 11,
  9, 7, 15, 11, 8, 6, 6, 14, 12, 13, 5, 14, 13, 13, 7, 5,
  15, 5, 8, 11, 14, 14, 6, 14, 6, 9, 12, 9, 12, 5, 15, 8,
  8, 5, 12, 9, 12, 5, 14, 6, 8, 13, 6, 5, 15, 13, 11, 11]

/-- The five boolean functions, selected by round group `0 … 4`. -/
def ripemdF (group : Nat) (x y z : UInt32) : UInt32 :=
  match group with
  | 0 => x ^^^ y ^^^ z
  | 1 => (x &&& y) ||| ((~~~ x) &&& z)
  | 2 => (x ||| (~~~ y)) ^^^ z
  | 3 => (x &&& z) ||| (y &&& (~~~ z))
  | _ => x ^^^ (y ||| (~~~ z))

/-- Additive constants of the left and right lines, by round group. -/
def ripemdK (group : Nat) : UInt32 × UInt32 :=
  match group with
  | 0 => (0x00000000, 0x50a28be6)
  | 1 => (0x5a827999, 0x5c4dd124)
  | 2 => (0x6ed9eba1, 0x6d703ef3)
  | 3 => (0x8f1bbcdc, 0x7a6d76e9)
  | _ => (0xa953fd4e, 0x00000000)

/-- One step of one line: `v = [a, b, c, d, e]` becomes `[e, t, b, rotl c 10, d]`. -/
def ripemdStep (f : UInt32 → UInt32 → UInt32 → UInt32) (k x s : UInt32) (v : List UInt32) :
    List UInt32 :=
  match v with
  | [a, b, c, d, e] => [e, rotl (a + f b c d + x + k) s + e, b, rotl c 10, d]
  | _ => v

/-- Both lines after step `j`, for steps `j, j+1, …, 79`. -/
def ripemdLines (x : List UInt32) : Nat → Nat → List UInt32 × List UInt32 → List UInt32 × List UInt32
  | 0, _, lines => lines
  | fuel + 1, j, (left, right) =>
      let g := j / 16
      ripemdLines x fuel (j + 1)
        (ripemdStep (ripemdF g) (ripemdK g).1 (x.getD (ripemdR.getD j 0) 0) (ripemdS.getD j 0) left,
         ripemdStep (ripemdF (4 - g)) (ripemdK g).2 (x.getD (ripemdR'.getD j 0) 0)
           (ripemdS'.getD j 0) right)

/-- The RIPEMD-160 compression of one 64-byte block into the chaining value. -/
def ripemd160Compress (h : List UInt32) (block : ByteString) : List UInt32 :=
  let (l, r) := ripemdLines (wordsLE block) 80 0 (h, h)
  let at' (v : List UInt32) (i : Nat) := v.getD i 0
  [at' h 1 + at' l 2 + at' r 3, at' h 2 + at' l 3 + at' r 4, at' h 3 + at' l 4 + at' r 0,
   at' h 4 + at' l 0 + at' r 1, at' h 0 + at' l 1 + at' r 2]

/-- Little-endian bytes of a 32-bit word. -/
def unwordLE (x : UInt32) : ByteString :=
  [x.toUInt8, (x >>> 8).toUInt8, (x >>> 16).toUInt8, (x >>> 24).toUInt8]

/-- `Ripemd160::digest`. -/
def ripemd160 (message : ByteString) : ByteString :=
  let padded := pad (fun n => leBytes n 8) message
  ((blocks padded.length padded).foldl ripemd160Compress ripemd160Init).flatMap unwordLE

/-- A RIPEMD-160 digest is 20 bytes: every compression returns five words. -/
theorem ripemd160_length (message : ByteString) : (ripemd160 message).length = 20 := by
  have compress : ∀ (state : List UInt32) (block : ByteString),
      (ripemd160Compress state block).length = 5 := by
    intro state block
    unfold ripemd160Compress
    split
    rfl
  rw [ripemd160, @flatMap_words_length unwordLE (fun _ => rfl),
    foldl_length_eq (fun state block _ => compress state block) _ ripemd160Init rfl]

/-! ### Test vectors -/

set_option maxRecDepth 20000 in
/-- SHA-256 of `"abc"`. -/
example : sha256 [0x61, 0x62, 0x63] =
    [0xba, 0x78, 0x16, 0xbf, 0x8f, 0x01, 0xcf, 0xea, 0x41, 0x41, 0x40, 0xde, 0x5d, 0xae, 0x22, 0x23,
     0xb0, 0x03, 0x61, 0xa3, 0x96, 0x17, 0x7a, 0x9c, 0xb4, 0x10, 0xff, 0x61, 0xf2, 0x00, 0x15, 0xad] := by
  rfl

set_option maxRecDepth 20000 in
/-- RIPEMD-160 of `"abc"`. -/
example : ripemd160 [0x61, 0x62, 0x63] =
    [0x8e, 0xb2, 0x08, 0xf7, 0xe0, 0x5d, 0x98, 0x7a, 0x9b, 0x04, 0x4a, 0x8e, 0x98, 0xc6, 0xb0, 0x87,
     0xf1, 0x5a, 0x0b, 0xfc] := by
  rfl

end BllvmConsensus.Digest
