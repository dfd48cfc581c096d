import StateChannel.Curve.Ecdsa
import StateChannel.Proofs.Curve.Order

/-!
# Recovery undoes signing

A signature says that the secret point times `s` is the generator times the hash plus the point of
the key times `r`. Signing makes this hold and recovery solves it for the point of the key,
whichever of the four points with the given `r` the secret one is.

## Main results

* `Curve.Point.Stands.lift?_eq`: a point is known from its first coordinate and a parity
* `SecretKey.equation_of_sign?`: signatures that are made satisfy the equation
* `Signature.recover?_of_equation`: the equation is solved
* `SecretKey.recover?_of_sign?`: recovery gives the point of the key that signed
-/

namespace StateChannel

open Curve (order fieldSize curve base)

namespace Curve

/-! ### Multiples of the generator -/

/-- The multiples of `P` by `m` and by `n` are the same if `m` and `n` are modulo `order`. -/
theorem nsmul_congr {P : curve.Point} (torsion : order • P = 0) {m n : Nat}
    (same : (m : ZMod order) = n) : m • P = n • P := by
  have divides : addOrderOf P ∣ order := addOrderOf_dvd_iff_nsmul_eq_zero.2 torsion
  have remainders : m ≡ n [MOD order] := (ZMod.natCast_eq_natCast_iff _ _ _).1 same
  exact nsmul_eq_nsmul_iff_modEq.2 (remainders.of_dvd divides)

theorem nsmul_base_ne_zero {n : Nat} (pos : 0 < n) (lt : n < order) : n • base ≠ 0 := by
  intro zero
  have divides := addOrderOf_dvd_iff_nsmul_eq_zero.2 zero
  rw [addOrderOf_base] at divides
  exact absurd (Nat.le_of_dvd pos divides) (Nat.not_le.2 lt)

theorem order_nsmul_nsmul_base (n : Nat) : order • n • base = 0 := by
  rw [nsmul_left_comm, order_nsmul_base, nsmul_zero]

/-! ### The point with a coordinate and a parity -/

namespace Point

theorem sub_zero_eq {y : Nat} (lt : y < fieldSize) (pos : 0 < y) : sub 0 y = fieldSize - y := by
  rw [sub, Nat.mod_eq_of_lt lt, Nat.zero_add, Nat.mod_eq_of_lt (by omega)]

namespace Stands

theorem reduced {x y : Nat} {P : curve.Point} (stands : Stands (Point.affine x y) P) :
    x < fieldSize ∧ y < fieldSize := by
  cases stands with
  | affine hx hy on => exact ⟨hx, hy⟩

theorem neg {x y : Nat} {P : curve.Point} (stands : Stands (Point.affine x y) P) :
    Stands (Point.affine x (sub 0 y)) (-P) := by
  cases stands with
  | affine hx hy on =>
    rw [WeierstrassCurve.Affine.Point.neg_some]
    refine of_cast hx (sub_lt _ _) rfl ?_ _
    rw [cast_sub, negY_eq, Nat.cast_zero, zero_sub]

/-- As `order` is odd, a multiple of the generator is not its own negative, so its second
coordinate is not zero. -/
theorem second_pos {x y n : Nat} (stands : Stands (Point.affine x y) (n • base)) (pos : 0 < n)
    (lt : n < order) : 0 < y := by
  refine Nat.pos_of_ne_zero fun zero => ?_
  subst zero
  have own : n • base = -(n • base) := stands.right_unique stands.neg
  have divides : order ∣ 2 * n := by
    rw [← addOrderOf_base, addOrderOf_dvd_iff_nsmul_eq_zero, mul_nsmul', two_nsmul]
    exact eq_neg_iff_add_eq_zero.1 own
  rcases prime_order.dvd_mul.1 divides with two | scalar
  · exact absurd (Nat.le_of_dvd (by decide) two) (by decide)
  · exact absurd (Nat.le_of_dvd pos scalar) (Nat.not_le.2 lt)

/-- The root that is taken of `cubic x` is the second coordinate `y` of `P`, or that of `-P`. -/
theorem root_eq {x y : Nat} {P : curve.Point} (stands : Stands (Point.affine x y) P) :
    powMod fieldSize (cubic x) ((fieldSize + 1) / 4) = y ∨
      0 < y ∧ powMod fieldSize (cubic x) ((fieldSize + 1) / 4) = fieldSize - y := by
  cases stands with
  | affine hx hy on =>
    have lt : powMod fieldSize (cubic x) ((fieldSize + 1) / 4) < fieldSize := by
      rw [powMod_eq]
      exact Nat.mod_lt _ (by decide)
    have power : ((powMod fieldSize (cubic x) ((fieldSize + 1) / 4) : Nat) : Element) =
        (y * y) ^ ((fieldSize + 1) / 4) := by
      rw [powMod_eq, ZMod.natCast_mod, Nat.cast_pow, cast_cubic,
        (nonsingular_iff_equation _ _).1 on]
    -- A root of the square of `y` is `y` or its opposite.
    rcases cast_root (y : Element) with same | opposite
    · exact .inl (eq_of_cast_eq lt hy (power.trans same))
    · have negated : powMod fieldSize (cubic x) ((fieldSize + 1) / 4) = sub 0 y := by
        refine eq_of_cast_eq lt (sub_lt _ _) ?_
        rw [power, opposite, cast_sub, Nat.cast_zero, zero_sub]
      rcases Nat.eq_zero_or_pos y with rfl | pos
      · exact .inl negated
      · exact .inr ⟨pos, negated.trans (sub_zero_eq hy pos)⟩

/-- `lift?` finds a point from its first coordinate `x` and the parity of `y`. -/
theorem lift?_eq {x y : Nat} {P : curve.Point} (stands : Stands (Point.affine x y) P) :
    lift? x (y % 2 = 1) = some (Point.affine x y) := by
  have root := stands.root_eq
  cases stands with
  | affine hx hy on =>
    have odd : fieldSize % 2 = 1 := by decide
    rw [lift?]
    generalize powMod fieldSize (cubic x) ((fieldSize + 1) / 4) = z at root
    have square : z * z % fieldSize = cubic x := by
      refine eq_of_cast_eq (Nat.mod_lt _ (by decide)) (Nat.mod_lt _ (by decide)) ?_
      rw [ZMod.natCast_mod, Nat.cast_mul, cast_cubic, ← (nonsingular_iff_equation _ _).1 on]
      rcases root with rfl | ⟨-, rfl⟩
      · rfl
      · rw [Nat.cast_sub hy.le, ZMod.natCast_self, zero_sub, neg_mul_neg]
    rw [if_pos ⟨hx, square⟩]
    congr 2
    -- The parity tells which of the two roots is meant.
    rcases root with rfl | ⟨pos, rfl⟩
    · simp
    · have other : ((fieldSize - y) % 2 = 1) ≠ (decide (y % 2 = 1) = true) := by
        simp only [decide_eq_true_eq, Ne, eq_iff_iff]
        omega
      rw [if_neg other, Nat.sub_sub_self hy.le, Nat.mod_eq_of_lt hy]

end Stands

end Point

end Curve

namespace SecretKey

theorem Drbg.scalar?_mem {g : Drbg} {attempts n : Nat} (found : g.scalar? attempts = some n) :
    0 < n ∧ n < order := by
  induction attempts generalizing g with
  | zero => exact nomatch found
  | succ attempts ih =>
    rw [scalar?] at found
    split at found
    · next range =>
      obtain rfl := Option.some.inj found
      exact range
    · exact ih found

/-- Dividing `m` by the secret scalar `k` is undone by multiplying with `k`. -/
theorem inverse_mul_mul {k : Nat} (pos : 0 < k) (lt : k < order) (m : Nat) :
    ((Curve.inverse order k * (m % order) % order * k : Nat) : ZMod order) = m := by
  have nonzero : (k : ZMod order) ≠ 0 := Curve.natCast_ne_zero pos lt
  rw [Nat.cast_mul, ZMod.natCast_mod, Nat.cast_mul, Curve.cast_inverse (by decide),
    ZMod.natCast_mod, mul_right_comm, inv_mul_cancel₀ nonzero, one_mul]

/-- What `Signature.r` keeps of the first coordinate `x`, and whether `order` was taken off, tell
`x`. -/
theorem secretX_eq {x s : Nat} {odd : Bool} (lt : x < fieldSize) :
    Signature.secretX ⟨x % order, s, odd, order ≤ x⟩ = x := by
  have twice : fieldSize < 2 * order := by decide
  by_cases beyond : order ≤ x
  · rw [Signature.secretX, if_pos (decide_eq_true beyond), Nat.mod_eq_sub_mod beyond,
      Nat.mod_eq_of_lt (by omega), Nat.sub_add_cancel beyond]
  · rw [Signature.secretX, if_neg (by simp [beyond]), Nat.mod_eq_of_lt (by omega)]

/-- What signing goes through: a secret scalar `k`, its point with the coordinates `x` and `y`, and
a number `s` with `s * k` as required; `s` or its negative is in the signature. -/
theorem sign?_cases {key : SecretKey} {hash : Bytes} {signature : Signature}
    (signed : key.sign? hash = some signature) :
    ∃ k x y s, (0 < k ∧ k < order) ∧ Curve.Point.multiply k .generator = .affine x y ∧
      ((s * k : Nat) : ZMod order) = (Bytes.toNat hash + x % order * key.scalar : Nat) ∧
      0 < x % order ∧ (0 < s ∧ s < order) ∧
      (s ≤ order / 2 ∧ signature = ⟨x % order, s, y % 2 = 1, order ≤ x⟩ ∨
        order / 2 < s ∧ signature = ⟨x % order, order - s, y % 2 = 0, order ≤ x⟩) := by
  simp only [sign?, Option.bind_eq_bind, Option.bind_eq_some_iff] at signed
  obtain ⟨k, nonce, signed⟩ := signed
  have scalar := Drbg.scalar?_mem nonce
  split at signed
  · exact nomatch signed
  · next x y product =>
    -- Of `s` and its opposite the smaller one is written, with the parity that fits.
    refine ⟨k, x, y, _, scalar, product, inverse_mul_mul scalar.1 scalar.2 _, ?_⟩
    have range : Curve.inverse order k *
        ((Bytes.toNat hash + x % order * key.scalar) % order) % order < order :=
      Nat.mod_lt _ (by decide)
    split at signed
    · exact nomatch signed
    · next nonzero =>
      obtain ⟨r, s⟩ := not_or.1 nonzero
      refine ⟨Nat.pos_of_ne_zero r, ⟨Nat.pos_of_ne_zero s, range⟩, ?_⟩
      split at signed
      · next low => exact .inl ⟨low, (Option.some.inj signed).symm⟩
      · next high => exact .inr ⟨Nat.not_le.1 high, (Option.some.inj signed).symm⟩

/-- A `signature` that was made has a secret point `R` for which the equation of signing holds. -/
theorem equation_of_sign? {key : SecretKey} {hash : Bytes} {signature : Signature}
    (signed : key.sign? hash = some signature) :
    signature.IsCanonical ∧ ∃ secret R,
      Curve.Point.lift? signature.secretX signature.odd = some secret ∧ secret.Stands R ∧
        order • R = 0 ∧
        signature.s • R = Bytes.toNat hash • base + signature.r • key.scalar • base := by
  obtain ⟨k, x, y, s, scalar, product, division, rangeR, rangeS, halves⟩ := sign?_cases signed
  have stands := Curve.Point.stands_generator.multiply k
  rw [product] at stands
  have torsion := Curve.order_nsmul_nsmul_base k
  have equation : s • k • base = Bytes.toNat hash • base + (x % order) • key.scalar • base := by
    rw [← mul_nsmul', ← mul_nsmul', ← add_nsmul]
    exact Curve.nsmul_congr Curve.order_nsmul_base division
  have reduced : x % order < order := Nat.mod_lt _ (by decide)
  rcases halves with ⟨low, rfl⟩ | ⟨high, rfl⟩
  · refine ⟨⟨rangeR, reduced, rangeS.1, low⟩, _, _, ?_, stands, torsion, equation⟩
    rw [secretX_eq stands.reduced.1]
    exact stands.lift?_eq
  · have small : order - s ≤ order / 2 := by omega
    have pos := stands.second_pos scalar.1 scalar.2
    refine ⟨⟨rangeR, reduced, Nat.sub_pos_of_lt rangeS.2, small⟩, _, _, ?_, stands.neg, ?_, ?_⟩
    · have parity : (y % 2 = 0) ↔ (Curve.sub 0 y % 2 = 1) := by
        have odd : fieldSize % 2 = 1 := by decide
        have below := stands.reduced.2
        rw [Curve.Point.sub_zero_eq below pos]
        omega
      rw [secretX_eq stands.reduced.1]
      simpa only [parity] using stands.neg.lift?_eq
    · rw [neg_nsmul, torsion, neg_zero]
    · -- Both numbers together make up the order, and so they cancel.
      have whole : (order - s) • k • base + s • k • base = 0 := by
        rw [← add_nsmul, Nat.sub_add_cancel rangeS.2.le, torsion]
      rw [neg_nsmul, neg_eq_of_add_eq_zero_right whole, equation]

theorem stands_publicPoint (key : SecretKey) : key.publicPoint.Stands (key.scalar • base) :=
  Curve.Point.stands_generator.multiply key.scalar

theorem publicPoint_ne_infinity (key : SecretKey) : key.publicPoint ≠ .infinity := by
  intro infinite
  have stands := key.stands_publicPoint
  rw [infinite] at stands
  exact Curve.nsmul_base_ne_zero key.pos key.lt_order (stands.right_unique .infinity)

end SecretKey

namespace Signature

/-- From the equation, `recover?` finds the public point of `key`. -/
theorem recover?_of_equation {key : SecretKey} {hash : Bytes} {signature : Signature}
    {secret : Curve.Point} {R : curve.Point} (canonical : signature.IsCanonical)
    (lifted : Curve.Point.lift? signature.secretX signature.odd = some secret)
    (stands : secret.Stands R) (torsion : order • R = 0)
    (equation : signature.s • R = Bytes.toNat hash • base + signature.r • key.scalar • base) :
    signature.recover? hash = some key.publicPoint := by
  have invertible : (signature.r : ZMod order) ≠ 0 :=
    Curve.natCast_ne_zero canonical.1 canonical.2.1
  have castInverse : ((Curve.inverse order signature.r : Nat) : ZMod order) =
      (signature.r : ZMod order)⁻¹ := Curve.cast_inverse (by decide) _
  rw [recover?, if_pos canonical, lifted, Option.bind_eq_bind, Option.bind_some]
  generalize Curve.inverse order signature.r = t at castInverse
  -- In the sum the hash cancels, and the multiple by the key is left.
  have below : t * (Bytes.toNat hash % order) % order ≤ order :=
    (Nat.mod_lt _ (by decide)).le
  have hashGone : (((order - t * (Bytes.toNat hash % order) % order) % order +
      t * Bytes.toNat hash : Nat) : ZMod order) = (0 : Nat) := by
    rw [Nat.cast_add, ZMod.natCast_mod, Nat.cast_sub below, ZMod.natCast_self, ZMod.natCast_mod,
      Nat.cast_mul, ZMod.natCast_mod, Nat.cast_mul, zero_sub, neg_add_cancel, Nat.cast_zero]
  have keyLeft : ((t * signature.r : Nat) : ZMod order) = (1 : Nat) := by
    rw [Nat.cast_mul, castInverse, inv_mul_cancel₀ invertible, Nat.cast_one]
  have solved : ((order - t * (Bytes.toNat hash % order) % order) % order) • base +
      (t * signature.s % order) • R = key.scalar • base := by
    generalize (order - t * (Bytes.toNat hash % order) % order) % order = u at hashGone
    calc u • base + (t * signature.s % order) • R
        = u • base + t • signature.s • R := by
          rw [Curve.nsmul_congr torsion (ZMod.natCast_mod _ _), mul_nsmul']
      _ = (u + t * Bytes.toNat hash) • base + (t * signature.r) • key.scalar • base := by
          rw [equation, nsmul_add, ← mul_nsmul', ← mul_nsmul', ← add_assoc, ← add_nsmul]
      _ = key.scalar • base := by
          rw [Curve.nsmul_congr Curve.order_nsmul_base hashGone, zero_nsmul,
            Curve.nsmul_congr (Curve.order_nsmul_nsmul_base key.scalar) keyLeft, one_nsmul,
            zero_add]
  have sum := (Curve.Point.stands_generator.multiply
    ((order - t * (Bytes.toNat hash % order) % order) % order)).add
      (stands.multiply (t * signature.s % order))
  rw [solved] at sum
  dsimp only
  rw [sum.left_unique key.stands_publicPoint]
  split
  · next infinite => exact absurd infinite key.publicPoint_ne_infinity
  · rfl

end Signature

/-- **Recovery finds who signed**: from the `signature` of `key` over `hash`, `recover?` gives
`key.publicPoint`. -/
theorem SecretKey.recover?_of_sign? {key : SecretKey} {hash : Bytes} {signature : Signature}
    (signed : key.sign? hash = some signature) :
    signature.recover? hash = some key.publicPoint := by
  obtain ⟨canonical, secret, R, lifted, stands, torsion, equation⟩ := key.equation_of_sign? signed
  exact signature.recover?_of_equation canonical lifted stands torsion equation

end StateChannel
