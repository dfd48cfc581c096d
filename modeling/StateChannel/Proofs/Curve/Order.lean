import Mathlib.GroupTheory.OrderOfElement
import StateChannel.Proofs.Curve.Group

/-!
# The order of the generator

The generator has the order that the scalars are reduced by. As this number is prime, it is enough
to see that so many generators add up to the point at infinity. The sum is computed in coordinates
that carry a weight, so that nothing has to be inverted.

## Main definitions

* `Curve.base`: the generator, as a point of the elliptic curve
* `Curve.Weighted`, `Curve.Weighted.Stands`: weighted coordinates, and the point they stand for
* `Curve.Weighted.multiple`: a multiple, by doubling

## Main results

* `Curve.Weighted.stands_multiple`: a multiple with a weight other than zero is right
* `Curve.addOrderOf_base`: the order of the generator
-/

namespace StateChannel.Curve

open WeierstrassCurve.Affine

/-- The first coordinate of the generator. -/
abbrev baseX : Nat := 0x79be667ef9dcbbac55a06295ce870b07029bfcdb2dce28d959f2815b16f81798

/-- The second coordinate of the generator. -/
abbrev baseY : Nat := 0x483ada7726a3c4655da4fbfc0e1108a8fd17b448a68554199c47d08ffb10d4b8

theorem base_nonsingular : curve.Nonsingular (baseX : Element) (baseY : Element) :=
  Point.IsOnCurve.nonsingular Point.generator_isOnCurve

/-- The generator of the group. -/
def base : curve.Point := .some _ _ base_nonsingular

theorem Point.stands_generator : Stands generator base :=
  .affine (by decide) (by decide) base_nonsingular

/-- The coordinates of a point, times the square and the cube of a weight. -/
structure Weighted where
  x : Nat
  y : Nat
  z : Nat

namespace Weighted

/-- Twice the point `p`. -/
def double (p : Weighted) : Weighted :=
  let square := p.y * p.y % fieldSize
  let middle := 4 * p.x * square % fieldSize
  let slope := 3 * p.x * p.x % fieldSize
  let x := sub (slope * slope) (2 * middle)
  ⟨x, sub (slope * sub middle x) (8 * square * square), 2 * p.y * p.z % fieldSize⟩

/-- The sum of `p` and the point with the plain coordinates `u` and `v`. -/
def addPlain (u v : Nat) (p : Weighted) : Weighted :=
  let square := p.z * p.z % fieldSize
  let run := sub (u * square) p.x
  let rise := sub (v * p.z * square) p.y
  let runSquare := run * run % fieldSize
  let middle := p.x * runSquare % fieldSize
  let x := sub (sub (rise * rise) (run * runSquare)) (2 * middle)
  ⟨x, sub (rise * sub middle x) (p.y * run * runSquare), run * p.z % fieldSize⟩

/-- The multiple of the point `u`, `v` by a number with so many binary digits after the first. -/
def multiple (u v : Nat) : Nat → Nat → Weighted
  | 0, _ => ⟨u, v, 1⟩
  | bits + 1, n =>
    let half := (multiple u v bits (n / 2)).double
    if n % 2 = 1 then half.addPlain u v else half

/-- `P` is the point whose weighted coordinates are those of `p`. -/
def Stands (p : Weighted) (P : curve.Point) : Prop :=
  ∃ (x y : Element) (on : curve.Nonsingular x y), P = .some x y on ∧
    p.x = x * p.z ^ 2 ∧ p.y = y * p.z ^ 3

/-- The weight of `p` is not zero, and its coordinates are `u` and the negative of `v`. -/
def Opposes (u v : Nat) (p : Weighted) : Prop :=
  p.z % fieldSize ≠ 0 ∧ p.x % fieldSize = u * p.z ^ 2 % fieldSize ∧
    (p.y + v * p.z ^ 3) % fieldSize = 0

instance (u v : Nat) (p : Weighted) : Decidable (p.Opposes u v) :=
  inferInstanceAs (Decidable (_ ∧ _ ∧ _))

theorem cast_double_x (p : Weighted) :
    (p.double.x : Element) = (3 * p.x ^ 2) ^ 2 - 8 * p.x * p.y ^ 2 := by
  simp only [double, cast_sub, ZMod.natCast_mod, Nat.cast_mul, Nat.cast_ofNat]
  ring

theorem cast_double_y (p : Weighted) :
    (p.double.y : Element) = 3 * p.x ^ 2 * (4 * p.x * p.y ^ 2 - p.double.x) - 8 * p.y ^ 4 := by
  simp only [double, cast_sub, ZMod.natCast_mod, Nat.cast_mul, Nat.cast_ofNat]
  ring

theorem cast_double_z (p : Weighted) : (p.double.z : Element) = 2 * p.y * p.z := by
  simp only [double, ZMod.natCast_mod, Nat.cast_mul, Nat.cast_ofNat]

theorem Stands.double {p : Weighted} {P : curve.Point} (stands : p.Stands P)
    (weighty : (p.double.z : Element) ≠ 0) : p.double.Stands (P + P) := by
  obtain ⟨x, y, on, rfl, castX, castY⟩ := stands
  have nonzero : 2 * y ≠ 0 := by
    intro zero
    refine weighty ?_
    rw [cast_double_z, castY]
    linear_combination p.z ^ 4 * zero
  have other : y ≠ curve.negY x y := by
    rw [negY_eq]
    exact fun same => nonzero (by rw [eq_neg_iff.1 same, mul_zero])
  -- The slope of the tangent without a division.
  have tangent : curve.slope x x y y * (2 * y) = 3 * x ^ 2 := by
    rw [slope_of_Y_ne rfl other, negY_eq, sub_neg_eq_add, ← two_mul, div_mul_cancel₀ _ nonzero]
    simp [curve]
  -- The coordinates carry weights, and these cancel once the slope has been put in.
  have first : (p.double.x : Element) = curve.addX x x (curve.slope x x y y) * p.double.z ^ 2 := by
    rw [cast_double_x, cast_double_z, castX, castY]
    generalize curve.slope x x y y = l at tangent
    simp only [addX, curve]
    linear_combination (-p.z ^ 8 * (l * (2 * y) + 3 * x ^ 2)) * tangent
  rw [WeierstrassCurve.Affine.Point.add_self_of_Y_ne other]
  refine ⟨_, _, _, rfl, first, ?_⟩
  rw [cast_double_y, first, cast_double_z, castX, castY, addY, negY_eq]
  generalize curve.slope x x y y = l at tangent
  simp only [negAddY, addX, curve]
  linear_combination (-4 * y ^ 2 * p.z ^ 12 * (3 * x - l ^ 2)) * tangent

theorem cast_addPlain_x (u v : Nat) (p : Weighted) :
    ((p.addPlain u v).x : Element) = (v * p.z ^ 3 - p.y) ^ 2 - (u * p.z ^ 2 - p.x) ^ 3 -
      2 * p.x * (u * p.z ^ 2 - p.x) ^ 2 := by
  simp only [addPlain, cast_sub, ZMod.natCast_mod, Nat.cast_mul, Nat.cast_ofNat]
  ring

theorem cast_addPlain_y (u v : Nat) (p : Weighted) :
    ((p.addPlain u v).y : Element) = (v * p.z ^ 3 - p.y) *
      (p.x * (u * p.z ^ 2 - p.x) ^ 2 - (p.addPlain u v).x) - p.y * (u * p.z ^ 2 - p.x) ^ 3 := by
  simp only [addPlain, cast_sub, ZMod.natCast_mod, Nat.cast_mul, Nat.cast_ofNat]
  ring

theorem cast_addPlain_z (u v : Nat) (p : Weighted) :
    ((p.addPlain u v).z : Element) = (u * p.z ^ 2 - p.x) * p.z := by
  simp only [addPlain, cast_sub, ZMod.natCast_mod, Nat.cast_mul]
  ring

theorem weight_of_double {p : Weighted} (weighty : (p.double.z : Element) ≠ 0) :
    (p.z : Element) ≠ 0 := by
  rw [cast_double_z] at weighty
  exact right_ne_zero_of_mul weighty

theorem weight_of_addPlain {u v : Nat} {p : Weighted}
    (weighty : ((p.addPlain u v).z : Element) ≠ 0) : (p.z : Element) ≠ 0 := by
  rw [cast_addPlain_z] at weighty
  exact right_ne_zero_of_mul weighty

section Plain

variable {u v : Nat} (plain : curve.Nonsingular (u : Element) (v : Element))

theorem Stands.addPlain {p : Weighted} {P : curve.Point} (stands : p.Stands P)
    (weighty : ((p.addPlain u v).z : Element) ≠ 0) :
    (p.addPlain u v).Stands (P + .some _ _ plain) := by
  obtain ⟨x, y, on, rfl, castX, castY⟩ := stands
  have nonzero : x - u ≠ 0 := by
    intro zero
    refine weighty ?_
    rw [cast_addPlain_z, castX]
    linear_combination -p.z ^ 3 * zero
  -- The slope of the chord without a division.
  have chord : curve.slope x u y v * (x - u) = y - v := by
    rw [slope_of_X_ne (sub_ne_zero.1 nonzero), div_mul_cancel₀ _ nonzero]
  have first : ((p.addPlain u v).x : Element) =
      curve.addX x u (curve.slope x u y v) * (p.addPlain u v).z ^ 2 := by
    rw [cast_addPlain_x, cast_addPlain_z, castX, castY]
    generalize curve.slope x u y v = l at chord
    simp only [addX, curve]
    linear_combination (-p.z ^ 6 * (l * (x - u) + y - v)) * chord
  rw [WeierstrassCurve.Affine.Point.add_of_X_ne (sub_ne_zero.1 nonzero)]
  refine ⟨_, _, _, rfl, first, ?_⟩
  rw [cast_addPlain_y, first, cast_addPlain_z, castX, castY, addY, negY_eq]
  generalize curve.slope x u y v = l at chord
  simp only [negAddY, addX, curve]
  linear_combination (p.z ^ 9 * (x - u) ^ 2 * (2 * x + u - l ^ 2)) * chord

/-- `multiple u v bits n` stands for `n` times the point, if its weight is not zero. -/
theorem stands_multiple {bits n : Nat} (digits : n / 2 ^ bits = 1)
    (weighty : ((multiple u v bits n).z : Element) ≠ 0) :
    (multiple u v bits n).Stands (n • .some _ _ plain) := by
  -- A weight that is lost never comes back, so it is there on the way too.
  induction bits generalizing n with
  | zero =>
    obtain rfl : n = 1 := by simpa using digits
    rw [one_nsmul]
    exact ⟨_, _, plain, rfl, by simp [multiple], by simp [multiple]⟩
  | succ bits ih =>
    have shorter : n / 2 / 2 ^ bits = 1 := by
      rwa [Nat.div_div_eq_div_mul, ← Nat.pow_succ']
    have half (weighty : ((multiple u v bits (n / 2)).double.z : Element) ≠ 0) :
        (multiple u v bits (n / 2)).double.Stands ((2 * (n / 2)) • .some _ _ plain) := by
      rw [two_mul, add_nsmul]
      exact (ih shorter (weight_of_double weighty)).double weighty
    rw [multiple] at weighty ⊢
    by_cases odd : n % 2 = 1
    · rw [if_pos odd] at weighty ⊢
      have sum := (half (weight_of_addPlain weighty)).addPlain plain weighty
      rwa [← succ_nsmul, show 2 * (n / 2) + 1 = n by omega] at sum
    · rw [if_neg odd] at weighty ⊢
      have even := half weighty
      rwa [show 2 * (n / 2) = n by omega] at even

theorem Opposes.weighty {p : Weighted} (opposes : p.Opposes u v) : (p.z : Element) ≠ 0 := by
  rw [Ne, ZMod.natCast_eq_zero_iff, Nat.dvd_iff_mod_eq_zero]
  exact opposes.1

theorem Stands.eq_neg {p : Weighted} {P : curve.Point} (stands : p.Stands P)
    (opposes : p.Opposes u v) : P = -.some _ _ plain := by
  obtain ⟨x, y, on, rfl, castX, castY⟩ := stands
  have weighty := opposes.weighty
  have first : x = u := by
    have same := (ZMod.natCast_eq_natCast_iff _ _ _).2 opposes.2.1
    rw [castX, Nat.cast_mul, Nat.cast_pow] at same
    exact mul_right_cancel₀ (pow_ne_zero 2 weighty) same
  have second : y = curve.negY u v := by
    have zero := (ZMod.natCast_eq_zero_iff _ _).2 (Nat.dvd_of_mod_eq_zero opposes.2.2)
    rw [Nat.cast_add, castY, Nat.cast_mul, Nat.cast_pow, ← add_mul] at zero
    rw [negY_eq]
    exact eq_neg_of_add_eq_zero_left
      ((mul_eq_zero.1 zero).resolve_right (pow_ne_zero 3 weighty))
  subst first second
  rw [WeierstrassCurve.Affine.Point.neg_some]

end Plain

/-- All generators but one come to the negative of the generator. -/
theorem opposes_multiple : (multiple baseX baseY 255 (order - 1)).Opposes baseX baseY := by
  decide +kernel

end Weighted

theorem nsmul_eq_zero_of_pred {n : Nat} {P : curve.Point} (pos : 0 < n)
    (pred : (n - 1) • P = -P) : n • P = 0 := by
  calc n • P = (n - 1 + 1) • P := by rw [Nat.sub_add_cancel pos]
    _ = 0 := by rw [succ_nsmul, pred, neg_add_cancel]

/-- `order` times the generator is the point at infinity. -/
theorem order_nsmul_base : order • base = 0 :=
  nsmul_eq_zero_of_pred (by decide) <|
    (Weighted.stands_multiple base_nonsingular (by decide)
      Weighted.opposes_multiple.weighty).eq_neg base_nonsingular Weighted.opposes_multiple

theorem addOrderOf_base : addOrderOf base = order :=
  addOrderOf_eq_prime order_nsmul_base (WeierstrassCurve.Affine.Point.some_ne_zero _)

end StateChannel.Curve
