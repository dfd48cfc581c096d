import StateChannel.Bytes.Words

/-!
# The curve secp256k1

The points of `y² = x³ + 7` over the field of `fieldSize` elements, with the generator of the
group of prime order `order`. Field elements and scalars are natural numbers below their
modulus.

## Main definitions

* `Curve.powMod`, `Curve.inverse`: modular arithmetic
* `Curve.Point`, `Curve.Point.IsOnCurve`: points
* `Curve.Point.add`, `Curve.Point.multiply`: the group
* `Curve.Point.lift?`: the point with a given first coordinate and a given parity of the second
* `Curve.Point.ofBytes?`, `Curve.Point.toBytes`: the written forms of a point

## Main results

* `Curve.Point.generator_isOnCurve`: the generator is on the curve
-/

namespace StateChannel.Curve

/-- The number of elements of the field. -/
abbrev fieldSize : Nat := 0xfffffffffffffffffffffffffffffffffffffffffffffffffffffffefffffc2f

/-- The order of the group, a prime. -/
abbrev order : Nat := 0xfffffffffffffffffffffffffffffffebaaedce6af48a03bbfd25e8cd0364141

/-- A power modulo `modulus`, by squaring; the exponent has at most `bits` binary digits. -/
def powBits (modulus base : Nat) : Nat → Nat → Nat
  | 0, _ => 1 % modulus
  | bits + 1, exponent =>
    let half := powBits modulus base bits (exponent / 2)
    let square := half * half % modulus
    if exponent % 2 = 1 then square * base % modulus else square

/-- A power modulo `modulus`. -/
def powMod (modulus base exponent : Nat) : Nat := powBits modulus base (exponent.log2 + 1) exponent

/-- The inverse modulo a prime; zero for zero. -/
def inverse (modulus n : Nat) : Nat := powMod modulus n (modulus - 2)

/-- The difference of two field elements. -/
def sub (a b : Nat) : Nat := (a + (fieldSize - b % fieldSize)) % fieldSize

/-- A point of the curve. -/
inductive Point
  | infinity
  | affine (x y : Nat)
  deriving DecidableEq, Repr

namespace Point

/-- The right-hand side of the curve's equation. -/
def cubic (x : Nat) : Nat := (x * x % fieldSize * x + 7) % fieldSize

/-- The coordinates are reduced and satisfy the equation. -/
def IsOnCurve : Point → Prop
  | infinity => True
  | affine x y => x < fieldSize ∧ y < fieldSize ∧ y * y % fieldSize = cubic x

instance : DecidablePred IsOnCurve
  | infinity => inferInstanceAs (Decidable True)
  | affine _ _ => inferInstanceAs (Decidable (_ ∧ _ ∧ _))

/-- The generator. -/
def generator : Point :=
  affine 0x79be667ef9dcbbac55a06295ce870b07029bfcdb2dce28d959f2815b16f81798
    0x483ada7726a3c4655da4fbfc0e1108a8fd17b448a68554199c47d08ffb10d4b8

/-- The third point on a line with the given slope, mirrored. -/
def alongSlope (slope x₁ y₁ x₂ : Nat) : Point :=
  let x := sub (sub (slope * slope % fieldSize) x₁) x₂
  affine x (sub (slope * sub x₁ x % fieldSize) y₁)

/-- Twice a point. -/
def double : Point → Point
  | infinity => infinity
  | affine x y =>
    if y = 0 then infinity
    else
      let slope := 3 * (x * x) % fieldSize * inverse fieldSize (2 * y % fieldSize) % fieldSize
      alongSlope slope x y x

/-- The sum of two points. -/
def add : Point → Point → Point
  | infinity, q => q
  | p, infinity => p
  | affine x₁ y₁, affine x₂ y₂ =>
    if x₁ = x₂ then
      if y₁ = y₂ then double (affine x₁ y₁) else infinity
    else
      alongSlope (sub y₂ y₁ * inverse fieldSize (sub x₂ x₁) % fieldSize) x₁ y₁ x₂

/-- A multiple of a point, by doubling. -/
def multiply (n : Nat) (p : Point) : Point :=
  if n = 0 then infinity
  else
    let half := double (multiply (n / 2) p)
    if n % 2 = 1 then add half p else half
termination_by n
decreasing_by omega

/-- The point with first coordinate `x` and a second coordinate of the given parity. -/
def lift? (x : Nat) (odd : Bool) : Option Point :=
  let square := cubic x
  let root := powMod fieldSize square ((fieldSize + 1) / 4)
  if x < fieldSize ∧ root * root % fieldSize = square then
    some (affine x (if (root % 2 = 1) = (odd = true) then root else (fieldSize - root) % fieldSize))
  else none

/-- The coordinates of a point, 32 bytes each. -/
def toBytes : Point → Bytes
  | infinity => []
  | affine x y => Bytes.ofNat 32 x ++ Bytes.ofNat 32 y

/-- Reads a point: a tag that tells the parity and the first coordinate, or a tag and both. The tag
5 stands for the even second coordinate, as 2 does. -/
def ofBytes? : Bytes → Option Point
  | [] => none
  | tag :: rest =>
    if tag = 2 ∨ tag = 3 ∨ tag = 5 then
      if rest.length = 32 then lift? (Bytes.toNat rest) (tag = 3) else none
    else if tag = 4 ∧ rest.length = 64 then
      let p := affine (Bytes.toNat (rest.take 32)) (Bytes.toNat (rest.drop 32))
      if IsOnCurve p then some p else none
    else none

theorem generator_isOnCurve : IsOnCurve generator := by decide

end Point

end StateChannel.Curve
