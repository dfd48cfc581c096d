import StateChannel.Bytes.Words

/-!
# Keccak-256

The 256-bit digest of the Keccak sponge with its first padding rule (a set bit, zeros, a set
bit). The sponge holds 25 lanes of 64 bits and absorbs 136 bytes at a time.

## Main definitions

* `Keccak.digest`: the 32 bytes of the digest
-/

namespace StateChannel.Keccak

/-- The lanes of the sponge; the lane in column `x` and row `y` stands at `x + 5 * y`. -/
abbrev Sponge := Array UInt64

/-- One constant for each of the 24 rounds. -/
def roundConstants : List UInt64 := [
  0x0000000000000001, 0x0000000000008082, 0x800000000000808a, 0x8000000080008000,
  0x000000000000808b, 0x0000000080000001, 0x8000000080008081, 0x8000000000008009,
  0x000000000000008a, 0x0000000000000088, 0x0000000080008009, 0x000000008000000a,
  0x000000008000808b, 0x800000000000008b, 0x8000000000008089, 0x8000000000008003,
  0x8000000000008002, 0x8000000000000080, 0x000000000000800a, 0x800000008000000a,
  0x8000000080008081, 0x8000000000008080, 0x0000000080000001, 0x8000000080008008]

/-- How far the lane at a place is turned. -/
def rotations : Array UInt64 := #[
  0, 1, 62, 28, 27,
  36, 44, 6, 55, 20,
  3, 10, 43, 25, 39,
  41, 45, 15, 21, 8,
  18, 2, 61, 56, 14]

/-- Turns a lane to the left by `n` places. -/
def rotateLeft (x : UInt64) (n : UInt64) : UInt64 :=
  if n = 0 then x else (x <<< n) ||| (x >>> (64 - n))

/-- Adds to each lane the parities of two neighbouring columns. -/
def diffuse (s : Sponge) : Sponge :=
  let parity := Array.ofFn fun x : Fin 5 =>
    s.getD x 0 ^^^ s.getD (x + 5) 0 ^^^ s.getD (x + 10) 0 ^^^ s.getD (x + 15) 0 ^^^
      s.getD (x + 20) 0
  Array.ofFn fun i : Fin 25 =>
    s.getD i 0 ^^^ parity.getD ((i + 4) % 5) 0 ^^^ rotateLeft (parity.getD ((i + 1) % 5) 0) 1

/-- Turns every lane and moves it to its new place. -/
def scatter (s : Sponge) : Sponge :=
  Array.ofFn fun i : Fin 25 =>
    let x := i.val % 5
    let y := i.val / 5
    let source := (x + 3 * y) % 5 + 5 * x
    rotateLeft (s.getD source 0) (rotations.getD source 0)

/-- Combines each lane with the two that follow it in its row. -/
def combine (s : Sponge) : Sponge :=
  Array.ofFn fun i : Fin 25 =>
    let row := 5 * (i.val / 5)
    let next := s.getD (row + (i + 1) % 5) 0
    s.getD i 0 ^^^ ((next ^^^ 0xffffffffffffffff) &&& s.getD (row + (i + 2) % 5) 0)

/-- The permutation of the sponge: 24 rounds. -/
def permute (s : Sponge) : Sponge :=
  roundConstants.foldl
    (fun s constant => (combine (scatter (diffuse s))).modify 0 (· ^^^ constant)) s

/-- Absorbs one block of 136 bytes. -/
def absorb (s : Sponge) (block : Bytes) : Sponge :=
  let lanes :=
    ((Bytes.blocks 8 block).map fun lane => UInt64.ofNat (Bytes.toNatLittle lane)).toArray
  permute (Array.ofFn fun i : Fin 25 => s.getD i 0 ^^^ lanes.getD i 0)

/-- The input followed by a set bit, zeros, and a set bit at the end of the last block. -/
def pad (bs : Bytes) : Bytes :=
  match 135 - bs.length % 136 with
  | 0 => bs ++ [0x81]
  | zeros + 1 => bs ++ 0x01 :: List.replicate zeros 0 ++ [0x80]

/-- The digest of a byte string: the first four lanes after all blocks. -/
def digest (bs : Bytes) : Bytes :=
  let final := (Bytes.blocks 136 (pad bs)).foldl absorb (Array.replicate 25 0)
  [0, 1, 2, 3].flatMap fun i => Bytes.ofNatLittle 8 (final.getD i 0).toNat

theorem length_digest (bs : Bytes) : (digest bs).length = 32 := by
  simp [digest]

end StateChannel.Keccak
