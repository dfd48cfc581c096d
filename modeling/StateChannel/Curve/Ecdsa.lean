import StateChannel.Curve.Point
import StateChannel.Hash.Sha256

/-!
# Recoverable signatures

Signatures over a 32-byte hash from which the signer's point can be recovered. The secret
multiple of the generator is derived from the key and the hash, so signing is a function. Of
the two values of `s` that make a signature, the one in the lower half of the order is used,
and no other is accepted.

## Main definitions

* `SecretKey`: a scalar that is a key
* `Signature`: `r`, `s` and which secret point it is
* `SecretKey.sign?`, `Signature.recover?`: signing and recovery
-/

namespace StateChannel

open Curve (order)

/-- A secret key: a scalar that is neither zero nor beyond the order. -/
structure SecretKey where
  scalar : Nat
  pos : 0 < scalar
  lt_order : scalar < order
  deriving DecidableEq, Repr

/-- A signature, with what its two numbers do not tell of its secret point. -/
structure Signature where
  /-- The first coordinate of the secret point, less the order where it is beyond it. -/
  r : Nat
  s : Nat
  /-- The second coordinate is odd. -/
  odd : Bool
  /-- The first coordinate is beyond the order. -/
  beyond : Bool
  deriving DecidableEq, Repr

namespace SecretKey

/-- Reads a key of 32 bytes. -/
def ofBytes? (bs : Bytes) : Option SecretKey :=
  let n := Bytes.toNat bs
  if h : bs.length = 32 ∧ 0 < n ∧ n < order then some ⟨n, h.2.1, h.2.2⟩ else none

/-- The point of a key. -/
def publicPoint (key : SecretKey) : Curve.Point := Curve.Point.multiply key.scalar .generator

/-- The state of the generator of secret scalars: a key and a value. -/
structure Drbg where
  key : Bytes
  value : Bytes

namespace Drbg

/-- Mixes further bytes in. -/
def mix (g : Drbg) (mark : UInt8) (seed : Bytes) : Drbg :=
  let key := Sha256.hmac g.key (g.value ++ mark :: seed)
  ⟨key, Sha256.hmac key g.value⟩

/-- The state seeded with a key and a hash. -/
def seeded (seed : Bytes) : Drbg :=
  ((Drbg.mk (List.replicate 32 0) (List.replicate 32 1)).mix 0 seed).mix 1 seed

/-- The first scalar that is neither zero nor beyond the order, of at most `attempts`. -/
def scalar? (g : Drbg) : Nat → Option Nat
  | 0 => none
  | attempts + 1 =>
    let value := Sha256.hmac g.key g.value
    let n := Bytes.toNat value
    if 0 < n ∧ n < order then some n else (Drbg.mix ⟨g.key, value⟩ 0 []).scalar? attempts

end Drbg

/-- The secret scalar for a hash. -/
def nonce? (key : SecretKey) (hash : Bytes) : Option Nat :=
  (Drbg.seeded (Bytes.ofNat 32 key.scalar ++ hash)).scalar? 128

/-- Signs a `hash` of 32 bytes. -/
def sign? (key : SecretKey) (hash : Bytes) : Option Signature := do
  let k ← key.nonce? hash
  match Curve.Point.multiply k .generator with
  | .infinity => none
  | .affine x y =>
    let r := x % order
    let s := Curve.inverse order k * ((Bytes.toNat hash + r * key.scalar) % order) % order
    if r = 0 ∨ s = 0 then none
    -- The negated `s` belongs to the negated secret point, whose parity is the other one.
    else if s ≤ order / 2 then some ⟨r, s, y % 2 = 1, order ≤ x⟩
    else some ⟨r, order - s, y % 2 = 0, order ≤ x⟩

end SecretKey

namespace Signature

/-- Both numbers are in range, and `s` is in the lower half. -/
def IsCanonical (signature : Signature) : Prop :=
  0 < signature.r ∧ signature.r < order ∧ 0 < signature.s ∧ signature.s ≤ order / 2

instance (signature : Signature) : Decidable signature.IsCanonical := by
  unfold IsCanonical
  exact inferInstance

/-- The number that tells the four points apart that a signature may come from. -/
def recoveryId (signature : Signature) : Nat :=
  (if signature.odd then 1 else 0) + if signature.beyond then 2 else 0

/-- The first coordinate of the secret point. -/
def secretX (signature : Signature) : Nat :=
  if signature.beyond then signature.r + order else signature.r

/-- The point of the key that made `signature` over `hash`. -/
def recover? (signature : Signature) (hash : Bytes) : Option Curve.Point :=
  if signature.IsCanonical then do
    -- The secret point times `s` is the generator times the hash plus the key's point times `r`.
    let secret ← Curve.Point.lift? signature.secretX signature.odd
    let inverse := Curve.inverse order signature.r
    let u := (order - inverse * (Bytes.toNat hash % order) % order) % order
    let v := inverse * signature.s % order
    match (Curve.Point.multiply u .generator).add (secret.multiply v) with
    | .infinity => none
    | point => some point
  else none

end Signature

end StateChannel
