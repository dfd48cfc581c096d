/-!
# Binary floating-point numbers

The finite numbers of the 64-bit binary format, held as sign, significand and exponent, with
rounding in exact natural-number arithmetic.

## Main definitions

* `Binary64`: a finite floating-point number
* `Binary64.round?`: the number nearest to a quotient of natural numbers, a tie going to the even
  significand; `none` beyond the largest finite number
* `Binary64.scale?`: multiplies by a power of ten that is itself rounded
* `Binary64.quotient`: the rounded quotient of two rounded counters

## Main results

* `Binary64.roundHalfEven_exact`: what divides evenly is not changed by rounding
-/

namespace StateChannel

/-- A finite floating-point number: `significand * 2 ^ exponent`, negated if so marked.
Rounding gives significands below `2 ^ 53`, and at least `2 ^ 52` unless the exponent is the
least one. -/
structure Binary64 where
  negative : Bool
  significand : Nat
  exponent : Int
  deriving DecidableEq, Repr, Inhabited

namespace Binary64

/-- The least exponent. -/
def minExponent : Int := -1074

/-- The greatest exponent. -/
def maxExponent : Int := 971

/-- The least significand of 53 bits. -/
def topBit : Nat := 4503599627370496

/-- Zero without a sign. -/
def zero : Binary64 := ⟨false, 0, minExponent⟩

/-- The same number with the other sign. -/
def neg (x : Binary64) : Binary64 := { x with negative := !x.negative }

/-- The natural number nearest to a quotient, a tie going to the even one. -/
def roundHalfEven (num den : Nat) : Nat :=
  let floor := num / den
  let twice := 2 * (num % den)
  if twice < den then floor
  else if twice > den then floor + 1
  else if floor % 2 = 0 then floor else floor + 1

/-- The numerator and the denominator of `num / den / 2 ^ exponent`. -/
def shift (num den : Nat) (exponent : Int) : Nat × Nat :=
  if exponent ≥ 0 then (num, den * Nat.pow 2 exponent.toNat)
  else (num * Nat.pow 2 (-exponent).toNat, den)

/-- The exponent with which a quotient has a significand of 53 bits, as far as the format has it. -/
def exponentOf (num den : Nat) : Int :=
  let guess : Int := (Nat.log2 num : Int) - (Nat.log2 den : Int) - 52
  let (n, d) := shift num den guess
  max minExponent (if n < d * topBit then guess - 1 else guess)

/-- The floating-point number nearest to `num / den`; `none` when it is too large. -/
def round? (num den : Nat) : Option Binary64 :=
  if num = 0 then some zero
  else
    let exponent := exponentOf num den
    let (n, d) := shift num den exponent
    let significand := roundHalfEven n d
    let (significand, exponent) :=
      if significand = 2 * topBit then (topBit, exponent + 1) else (significand, exponent)
    if exponent > maxExponent then none else some ⟨false, significand, exponent⟩

/-- The size of a number, sign aside, as a quotient. -/
def ratio (x : Binary64) : Nat × Nat :=
  if x.exponent ≥ 0 then (x.significand * Nat.pow 2 x.exponent.toNat, 1)
  else (x.significand, Nat.pow 2 (-x.exponent).toNat)

/-- The greatest power of ten below the largest finite number. -/
def maxPower : Nat := 308

/-- The rounded power of ten as a quotient, for an exponent of at most `maxPower`. -/
def powerOfTen (exponent : Nat) : Nat × Nat :=
  match round? (Nat.pow 10 exponent) 1 with
  | some x => x.ratio
  | none => (1, 1)

/-- One rounded multiplication by a rounded power of ten. -/
def timesPower? (x : Binary64) (exponent : Nat) : Option Binary64 :=
  let (n, d) := x.ratio
  let (p, q) := powerOfTen exponent
  round? (n * p) (d * q)

/-- One rounded division by a rounded power of ten. -/
def overPower? (x : Binary64) (exponent : Nat) : Option Binary64 :=
  let (n, d) := x.ratio
  let (p, q) := powerOfTen exponent
  round? (n * q) (d * p)

/-- Divides by the greatest power of ten `steps` times and then once more by `10 ^ rest`. Zero stays
zero. -/
def descend (x : Binary64) (rest : Nat) : Nat → Option Binary64
  | 0 => x.overPower? rest
  | steps + 1 =>
    if x.significand = 0 then some x
    else (x.overPower? maxPower).bind fun y => descend y rest steps

/-- The natural number `significand`, rounded, times `10 ^ exponent`; `none` when too large. Each
multiplication or division rounds once more. -/
def scale? (significand : Nat) (exponent : Int) : Option Binary64 := do
  let x ← round? significand 1
  if exponent < 0 then
    let size := (-exponent).toNat
    let steps := (size - 1) / maxPower
    x.descend (size - maxPower * steps) steps
  else if exponent.toNat ≤ maxPower then x.timesPower? exponent.toNat
  else if x.significand = 0 then some x
  else none

/-- The rounded quotient of two counters that are rounded first; zero when the second is zero. -/
def quotient (total count : Nat) : Binary64 :=
  match round? total 1, round? count 1 with
  | some t, some c =>
    if count = 0 then zero
    else
      let (n, d) := t.ratio
      let (p, q) := c.ratio
      (round? (n * q) (d * p)).getD zero
  | _, _ => zero

theorem roundHalfEven_exact {n d : Nat} (h : 0 < d) : roundHalfEven (n * d) d = n := by
  simp [roundHalfEven, Nat.mul_div_cancel _ h, h]

end Binary64

end StateChannel
