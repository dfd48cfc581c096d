import Mathlib.FieldTheory.Finite.Basic
import StateChannel.Proofs.Curve.Primes

/-!
# Arithmetic of the field

The numbers below the size of the field are its elements, and are computed with as such: this is
what differences, inverses and square roots come to.

## Main definitions

* `Curve.Element`: the elements of the field

## Main results

* `Curve.cast_sub`, `Curve.cast_inverse`: differences and inverses
* `Curve.cast_root`: the root of a square is an element that was squared, or its negative
-/

namespace StateChannel.Curve

instance : Fact fieldSize.Prime := ⟨prime_fieldSize⟩

instance : Fact order.Prime := ⟨prime_order⟩

/-- An element of the field. -/
abbrev Element : Type := ZMod fieldSize

/-- Numbers `a` and `b` below `modulus` that are the same in `ZMod modulus` are equal. -/
theorem eq_of_cast_eq {modulus a b : Nat} (ha : a < modulus) (hb : b < modulus)
    (same : (a : ZMod modulus) = b) : a = b := by
  have values := congrArg ZMod.val same
  rwa [ZMod.val_natCast_of_lt ha, ZMod.val_natCast_of_lt hb] at values

theorem natCast_ne_zero {modulus n : Nat} (pos : 0 < n) (lt : n < modulus) :
    (n : ZMod modulus) ≠ 0 := by
  rw [Ne, ZMod.natCast_eq_zero_iff]
  exact fun divides => absurd (Nat.le_of_dvd pos divides) (Nat.not_le.2 lt)

theorem sub_lt (a b : Nat) : sub a b < fieldSize := Nat.mod_lt _ (by decide)

/-- `sub a b` is the difference of `a` and `b` in the field, computed without going below zero. -/
theorem cast_sub (a b : Nat) : ((sub a b : Nat) : Element) = a - b := by
  have reduced : b % fieldSize ≤ fieldSize := Nat.le_of_lt (Nat.mod_lt b (by decide))
  rw [sub, ZMod.natCast_mod, Nat.cast_add, Nat.cast_sub reduced, ZMod.natCast_mod,
    ZMod.natCast_self, zero_sub, sub_eq_add_neg]

/-- By Fermat's theorem, the power that `inverse modulus n` computes is the inverse of `n`. -/
theorem cast_inverse {modulus : Nat} [prime : Fact modulus.Prime] (large : 2 < modulus) (n : Nat) :
    ((inverse modulus n : Nat) : ZMod modulus) = (n : ZMod modulus)⁻¹ := by
  have power : ((inverse modulus n : Nat) : ZMod modulus) = (n : ZMod modulus) ^ (modulus - 2) := by
    rw [inverse, powMod_eq, ZMod.natCast_mod, Nat.cast_pow]
  by_cases zero : (n : ZMod modulus) = 0
  · rw [power, zero, inv_zero, zero_pow (by omega)]
  · refine eq_inv_of_mul_eq_one_left ?_
    calc ((inverse modulus n : Nat) : ZMod modulus) * n
        = (n : ZMod modulus) ^ (modulus - 2 + 1) := by rw [power, pow_succ]
      _ = (n : ZMod modulus) ^ (modulus - 1) := by congr 1; omega
      _ = 1 := ZMod.pow_card_sub_one_eq_one zero

/-- As `fieldSize` leaves three by four, this power of the square of `y` is `y` or `-y`. -/
theorem cast_root (y : Element) :
    (y * y) ^ ((fieldSize + 1) / 4) = y ∨ (y * y) ^ ((fieldSize + 1) / 4) = -y := by
  refine sq_eq_sq_iff_eq_or_eq_neg.1 ?_
  calc ((y * y) ^ ((fieldSize + 1) / 4)) ^ 2
      = y ^ (fieldSize + 1) := by
        rw [← pow_two, ← pow_mul, ← pow_mul]
        congr 1
    _ = y ^ 2 := by rw [pow_succ, ZMod.pow_card, pow_two]

end StateChannel.Curve
