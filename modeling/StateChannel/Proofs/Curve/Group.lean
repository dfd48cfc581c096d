import Mathlib.AlgebraicGeometry.EllipticCurve.Affine.Point
import StateChannel.Proofs.Curve.Field

/-!
# Points form a group

A written point stands for a point of the elliptic curve `y² = x³ + 7`. What is computed with
written points stands for what the group law gives.

## Main definitions

* `Curve.curve`: the elliptic curve
* `Curve.Point.Stands`: which point of it a written point is

## Main results

* `Curve.Point.IsOnCurve.nonsingular`: coordinates on the curve are those of one of its points
* `Curve.Point.Stands.add`, `Curve.Point.Stands.multiply`: sums and multiples
-/

namespace StateChannel.Curve

open WeierstrassCurve.Affine

/-- The curve `y² = x³ + 7`. -/
def curve : WeierstrassCurve.Affine Element := ⟨0, 0, 0, 0, 7⟩

theorem curve_Δ_ne_zero : curve.Δ ≠ 0 := by
  have negative : curve.Δ = -((21168 : Nat) : Element) := by
    simp only [curve, WeierstrassCurve.Δ, WeierstrassCurve.b₂, WeierstrassCurve.b₄,
      WeierstrassCurve.b₆, WeierstrassCurve.b₈]
    push_cast
    ring
  rw [negative]
  exact neg_ne_zero.2 (natCast_ne_zero (by decide) (by decide))

theorem nonsingular_iff_equation (x y : Element) :
    curve.Nonsingular x y ↔ y * y = x * x * x + 7 := by
  rw [← equation_iff_nonsingular_of_Δ_ne_zero curve_Δ_ne_zero, equation_iff]
  simp only [curve]
  constructor <;> intro equation <;> linear_combination equation

theorem negY_eq (x y : Element) : curve.negY x y = -y := by
  simp [curve]

/-- Only zero is its own negative. -/
theorem eq_neg_iff {y : Element} : y = -y ↔ y = 0 := by
  constructor
  · intro same
    have twice : ((2 : Nat) : Element) * y = 0 := by
      push_cast
      linear_combination same
    exact (mul_eq_zero.1 twice).resolve_left (natCast_ne_zero (by decide) (by decide))
  · rintro rfl
    exact neg_zero.symm

namespace Point

/-- `Stands p P`: the written point `p` has the coordinates of `P`. -/
inductive Stands : Point → curve.Point → Prop
  | infinity : Stands infinity 0
  | affine {x y : Nat} (hx : x < fieldSize) (hy : y < fieldSize)
      (on : curve.Nonsingular (x : Element) (y : Element)) : Stands (affine x y) (.some _ _ on)

namespace Stands

theorem of_cast {x y : Nat} {X Y : Element} (hx : x < fieldSize) (hy : y < fieldSize)
    (castX : (x : Element) = X) (castY : (y : Element) = Y) (on : curve.Nonsingular X Y) :
    Stands (.affine x y) (.some X Y on) := by
  subst castX castY
  exact .affine hx hy on

/-- A written point stands for one point of `curve`. -/
theorem right_unique {p : Point} {P Q : curve.Point} (first : Stands p P) (second : Stands p Q) :
    P = Q := by
  cases first <;> cases second <;> rfl

/-- A point of `curve` is written in one way. -/
theorem left_unique {p q : Point} {P : curve.Point} (first : Stands p P) (second : Stands q P) :
    p = q := by
  cases first with
  | infinity =>
    generalize zero : (0 : curve.Point) = P at second
    cases second with
    | infinity => rfl
    | affine _ _ on => exact absurd zero.symm (WeierstrassCurve.Affine.Point.some_ne_zero on)
  | @affine x y hx hy on =>
    generalize same : (WeierstrassCurve.Affine.Point.some _ _ on : curve.Point) = P at second
    cases second with
    | infinity => exact absurd same (WeierstrassCurve.Affine.Point.some_ne_zero on)
    | affine hx' hy' on' =>
      injection same with castX castY
      rw [eq_of_cast_eq hx hx' castX, eq_of_cast_eq hy hy' castY]

theorem alongSlope {slope x₁ y₁ x₂ : Nat} {l : Element} (castSlope : (slope : Element) = l)
    (on : curve.Nonsingular (curve.addX x₁ x₂ l) (curve.addY x₁ x₂ y₁ l)) :
    Stands (alongSlope slope x₁ y₁ x₂) (.some _ _ on) := by
  refine of_cast (sub_lt _ _) (sub_lt _ _) ?_ ?_ on
  · rw [cast_sub, cast_sub, ZMod.natCast_mod, Nat.cast_mul, castSlope]
    simp only [curve, addX]
    ring
  · rw [cast_sub, ZMod.natCast_mod, Nat.cast_mul, cast_sub, cast_sub, cast_sub, ZMod.natCast_mod,
      Nat.cast_mul, castSlope]
    simp only [curve, addY, negAddY, negY, addX]
    ring

/-- `p.double` stands for the sum of `P` with itself. -/
theorem double {p : Point} {P : curve.Point} (stands : Stands p P) : Stands p.double (P + P) := by
  cases stands with
  | infinity =>
    rw [add_zero]
    exact infinity
  | @affine x y hx hy on =>
    -- At a point with no height the tangent is vertical, and doubling leads to infinity.
    by_cases zero : y = 0
    · subst zero
      have own : ((0 : Nat) : Element) = curve.negY x (0 : Nat) := by rw [negY_eq]; simp
      rw [WeierstrassCurve.Affine.Point.add_self_of_Y_eq own]
      exact infinity
    · have nonzero : (y : Element) ≠ 0 := natCast_ne_zero (Nat.pos_of_ne_zero zero) hy
      have other : (y : Element) ≠ curve.negY x y := by
        rw [negY_eq]
        exact fun same => nonzero (eq_neg_iff.1 same)
      rw [WeierstrassCurve.Affine.Point.add_self_of_Y_ne other, Point.double, if_neg zero]
      refine alongSlope ?_ _
      rw [slope_of_Y_ne rfl other, ZMod.natCast_mod, Nat.cast_mul, ZMod.natCast_mod,
        cast_inverse (by decide), ZMod.natCast_mod, negY_eq, div_eq_mul_inv]
      congr 1
      · simp only [curve]
        push_cast
        ring
      · push_cast
        ring

/-- `p.add q` stands for `P + Q`. -/
theorem add {p q : Point} {P Q : curve.Point} (first : Stands p P) (second : Stands q Q) :
    Stands (p.add q) (P + Q) := by
  cases first with
  | infinity => simpa [Point.add] using second
  | @affine x₁ y₁ hx₁ hy₁ on₁ =>
    cases second with
    | infinity =>
      rw [add_zero]
      exact .affine hx₁ hy₁ on₁
    | @affine x₂ y₂ hx₂ hy₂ on₂ =>
      by_cases sameX : x₁ = x₂
      · subst sameX
        by_cases sameY : y₁ = y₂
        · subst sameY
          rw [Point.add, if_pos rfl, if_pos rfl]
          exact double (.affine hx₁ hy₁ on₁)
        · -- On a vertical line, two points that differ are each other's negatives.
          have opposite : (y₁ : Element) = curve.negY x₁ y₂ :=
            (Y_eq_of_X_eq on₁.1 on₂.1 rfl).resolve_left fun same =>
              sameY (eq_of_cast_eq hy₁ hy₂ same)
          rw [Point.add, if_pos rfl, if_neg sameY,
            WeierstrassCurve.Affine.Point.add_of_Y_eq rfl opposite]
          exact infinity
      · have apart : (x₁ : Element) ≠ x₂ := fun same => sameX (eq_of_cast_eq hx₁ hx₂ same)
        rw [Point.add, if_neg sameX, WeierstrassCurve.Affine.Point.add_of_X_ne apart]
        refine alongSlope ?_ _
        rw [slope_of_X_ne apart, ZMod.natCast_mod, Nat.cast_mul, cast_inverse (by decide), cast_sub,
          cast_sub, ← div_eq_mul_inv, ← neg_sub (y₁ : Element), ← neg_sub (x₁ : Element),
          neg_div_neg_eq]

/-- `multiply n p` stands for `n • P`. -/
theorem multiply {p : Point} {P : curve.Point} (stands : Stands p P) (n : Nat) :
    Stands (multiply n p) (n • P) := by
  induction n using Nat.strongRecOn with
  | ind n ih =>
    rw [Point.multiply]
    by_cases zero : n = 0
    · rw [if_pos zero, zero, zero_nsmul]
      exact infinity
    · -- Doubling the multiple of the half makes up for all but the last bit.
      have half : Stands (Point.multiply (n / 2) p).double ((2 * (n / 2)) • P) := by
        rw [two_mul, add_nsmul]
        exact (ih (n / 2) (by omega)).double
      rw [if_neg zero]
      by_cases odd : n % 2 = 1
      · have sum := half.add stands
        rw [← succ_nsmul, show 2 * (n / 2) + 1 = n by omega] at sum
        rwa [if_pos odd]
      · rw [show 2 * (n / 2) = n by omega] at half
        rwa [if_neg odd]

end Stands

theorem cast_cubic (x : Nat) : ((cubic x : Nat) : Element) = x * x * x + 7 := by
  simp [cubic]

/-- Coordinates `x` and `y` that satisfy the equation are those of a point. -/
theorem IsOnCurve.nonsingular {x y : Nat} (on : IsOnCurve (affine x y)) :
    curve.Nonsingular (x : Element) (y : Element) := by
  have residues := congrArg (Nat.cast (R := Element)) on.2.2
  rw [cast_cubic, ZMod.natCast_mod, Nat.cast_mul] at residues
  exact (nonsingular_iff_equation _ _).2 residues

end Point

end StateChannel.Curve
