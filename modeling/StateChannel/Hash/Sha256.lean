import StateChannel.Bytes.Words

/-!
# SHA-256

The 256-bit digest of the SHA-2 family: the padded input is absorbed in blocks of 64 bytes
into eight words of 32 bits.

## Main definitions

* `Sha256.digest`: the 32 bytes of the digest
* `Sha256.hmac`: the keyed digest built from it
-/

namespace StateChannel.Sha256

/-- The eight words of the chaining value. -/
structure Chain where
  a : UInt32
  b : UInt32
  c : UInt32
  d : UInt32
  e : UInt32
  f : UInt32
  g : UInt32
  h : UInt32
  deriving DecidableEq, Repr

/-- The chaining value before the first block. -/
def Chain.initial : Chain :=
  ⟨0x6a09e667, 0xbb67ae85, 0x3c6ef372, 0xa54ff53a, 0x510e527f, 0x9b05688c, 0x1f83d9ab, 0x5be0cd19⟩

/-- One constant for each of the 64 rounds. -/
def roundConstants : Array UInt32 := #[
  0x428a2f98, 0x71374491, 0xb5c0fbcf, 0xe9b5dba5, 0x3956c25b, 0x59f111f1, 0x923f82a4, 0xab1c5ed5,
  0xd807aa98, 0x12835b01, 0x243185be, 0x550c7dc3, 0x72be5d74, 0x80deb1fe, 0x9bdc06a7, 0xc19bf174,
  0xe49b69c1, 0xefbe4786, 0x0fc19dc6, 0x240ca1cc, 0x2de92c6f, 0x4a7484aa, 0x5cb0a9dc, 0x76f988da,
  0x983e5152, 0xa831c66d, 0xb00327c8, 0xbf597fc7, 0xc6e00bf3, 0xd5a79147, 0x06ca6351, 0x14292967,
  0x27b70a85, 0x2e1b2138, 0x4d2c6dfc, 0x53380d13, 0x650a7354, 0x766a0abb, 0x81c2c92e, 0x92722c85,
  0xa2bfe8a1, 0xa81a664b, 0xc24b8b70, 0xc76c51a3, 0xd192e819, 0xd6990624, 0xf40e3585, 0x106aa070,
  0x19a4c116, 0x1e376c08, 0x2748774c, 0x34b0bcb5, 0x391c0cb3, 0x4ed8aa4a, 0x5b9cca4f, 0x682e6ff3,
  0x748f82ee, 0x78a5636f, 0x84c87814, 0x8cc70208, 0x90befffa, 0xa4506ceb, 0xbef9a3f7, 0xc67178f2]

/-- Turns a word to the right by `n` places. -/
def rotateRight (x : UInt32) (n : UInt32) : UInt32 := (x >>> n) ||| (x <<< (32 - n))

/-- The words of a block, four bytes each. -/
def words : Bytes → List UInt32
  | p :: q :: r :: s :: rest => UInt32.ofNat (Bytes.toNat [p, q, r, s]) :: words rest
  | _ => []

/-- The sixteen words of a block and the 48 that follow from them. -/
def schedule (block : Bytes) : Array UInt32 :=
  (List.range 48).foldl
    (fun w i =>
      let x := w.getD (i + 1) 0
      let y := w.getD (i + 14) 0
      let s := rotateRight x 7 ^^^ rotateRight x 18 ^^^ (x >>> 3)
      let t := rotateRight y 17 ^^^ rotateRight y 19 ^^^ (y >>> 10)
      w.push (w.getD i 0 + s + w.getD (i + 9) 0 + t))
    (words block).toArray

/-- One round, with the scheduled word and the constant already added up. -/
def Chain.round (v : Chain) (word : UInt32) : Chain :=
  let s := rotateRight v.e 6 ^^^ rotateRight v.e 11 ^^^ rotateRight v.e 25
  let choice := (v.e &&& v.f) ^^^ ((v.e ^^^ 0xffffffff) &&& v.g)
  let t := v.h + s + choice + word
  let u := rotateRight v.a 2 ^^^ rotateRight v.a 13 ^^^ rotateRight v.a 22
  let majority := (v.a &&& v.b) ^^^ (v.a &&& v.c) ^^^ (v.b &&& v.c)
  ⟨t + u + majority, v.a, v.b, v.c, v.d + t, v.e, v.f, v.g⟩

/-- Absorbs one block of 64 bytes. -/
def Chain.absorb (v : Chain) (block : Bytes) : Chain :=
  let w := schedule block
  let r := (List.range 64).foldl (fun r i => r.round (roundConstants.getD i 0 + w.getD i 0)) v
  ⟨v.a + r.a, v.b + r.b, v.c + r.c, v.d + r.d, v.e + r.e, v.f + r.f, v.g + r.g, v.h + r.h⟩

/-- The bytes of a chaining value. -/
def Chain.toBytes (v : Chain) : Bytes :=
  [v.a, v.b, v.c, v.d, v.e, v.f, v.g, v.h].flatMap fun word => Bytes.ofNat 4 word.toNat

/-- The input followed by a set bit, zeros up to 56 bytes in the last block, and its length in
bits. -/
def pad (bs : Bytes) : Bytes :=
  let zeros := (119 - bs.length % 64) % 64
  bs ++ 0x80 :: List.replicate zeros 0 ++ Bytes.ofNat 8 (8 * bs.length)

/-- The digest of a byte string. -/
def digest (bs : Bytes) : Bytes :=
  ((Bytes.blocks 64 (pad bs)).foldl Chain.absorb Chain.initial).toBytes

/-- The keyed digest: a key longer than a block is digested first. -/
def hmac (key message : Bytes) : Bytes :=
  let short := if key.length ≤ 64 then key else digest key
  let full := short ++ List.replicate (64 - short.length) 0
  digest (full.map (· ^^^ 0x5c) ++ digest (full.map (· ^^^ 0x36) ++ message))

theorem length_digest (bs : Bytes) : (digest bs).length = 32 := by
  simp [digest, Chain.toBytes]

end StateChannel.Sha256
