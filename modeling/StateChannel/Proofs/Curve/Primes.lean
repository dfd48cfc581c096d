import Mathlib.NumberTheory.LucasPrimality
import Mathlib.Tactic.NormNum.Prime
import StateChannel.Curve.Point

/-!
# The field and the group have prime order

Lucas's test proves a number prime from an element of full order, once it is known which primes
divide the predecessor of the number. These are small, or are proved prime by the same test, and so
each number is certified by the numbers before it.

## Main definitions

* `Curve.Certificate`: a number, with what the test needs
* `Curve.Certified`: certificates that rest on known primes and on each other

## Main results

* `Curve.powMod_eq`: powers are computed as they should be
* `Curve.Certified.prime`: certified numbers are prime
* `Curve.prime_fieldSize`, `Curve.prime_order`: the field and the group
-/

namespace StateChannel.Curve

/-! ### Powers -/

theorem powBits_eq (modulus base : Nat) {bits exponent : Nat} (few : exponent < 2 ^ bits) :
    powBits modulus base bits exponent = base ^ exponent % modulus := by
  induction bits generalizing exponent with
  | zero =>
    obtain rfl : exponent = 0 := by simpa using few
    rfl
  | succ bits ih =>
    -- The power of the half is squared, and an odd exponent takes the base once more.
    have half : powBits modulus base bits (exponent / 2) = base ^ (exponent / 2) % modulus :=
      ih (by rw [Nat.pow_succ] at few; omega)
    have square : base ^ (exponent / 2) % modulus * (base ^ (exponent / 2) % modulus) % modulus =
        base ^ (2 * (exponent / 2)) % modulus := by
      rw [← Nat.mul_mod, ← Nat.pow_add, Nat.two_mul]
    rw [powBits, half, square]
    split
    · next odd =>
      rw [Nat.mod_mul_mod, ← Nat.pow_succ]
      congr 2
      omega
    · next even =>
      congr 2
      omega

/-- `powMod` computes a power by squaring. -/
theorem powMod_eq (modulus base exponent : Nat) :
    powMod modulus base exponent = base ^ exponent % modulus :=
  powBits_eq modulus base Nat.lt_log2_self

/-! ### Certificates -/

/-- A `number` that may be prime, an element that may have full order, and the primes that divide
`number - 1`, as often as they do. -/
structure Certificate where
  number : Nat
  element : Nat
  factors : List Nat

/-- The factors of `c` are `known`, and make up its number less one; the order of the element
divides that, and no quotient of it by a factor. -/
def Certificate.Holds (known : List Nat) (c : Certificate) : Prop :=
  1 < c.number ∧ c.factors.prod = c.number - 1 ∧ powMod c.number c.element (c.number - 1) = 1 ∧
    ∀ q ∈ c.factors, q ∈ known ∧ powMod c.number c.element ((c.number - 1) / q) ≠ 1

instance (known : List Nat) (c : Certificate) : Decidable (c.Holds known) :=
  inferInstanceAs (Decidable (_ ∧ _ ∧ _ ∧ _))

/-- Each certificate rests on what is `known`, and on the certificates before it. -/
def Certified (known : List Nat) : List Certificate → Prop
  | [] => True
  | c :: rest => c.Holds known ∧ Certified (c.number :: known) rest

instance decidableCertified (known : List Nat) : ∀ cs, Decidable (Certified known cs)
  | [] => inferInstanceAs (Decidable True)
  | c :: rest =>
    have := decidableCertified (c.number :: known) rest
    inferInstanceAs (Decidable (_ ∧ _))

theorem natCast_pow_eq_one_iff {p : Nat} (large : 1 < p) (a n : Nat) :
    (a : ZMod p) ^ n = 1 ↔ powMod p a n = 1 := by
  have congruent : ((a ^ n : Nat) : ZMod p) = (1 : Nat) ↔ a ^ n % p = 1 % p :=
    ZMod.natCast_eq_natCast_iff _ _ p
  rwa [Nat.cast_pow, Nat.cast_one, Nat.mod_eq_of_lt large, ← powMod_eq] at congruent

theorem Certificate.Holds.prime {known : List Nat} {c : Certificate} (holds : c.Holds known)
    (primes : ∀ q ∈ known, q.Prime) : c.number.Prime := by
  obtain ⟨large, product, whole, parts⟩ := holds
  refine lucas_primality c.number (c.element : ZMod c.number)
    ((natCast_pow_eq_one_iff large _ _).2 whole) fun q prime divides => ?_
  -- A prime that divides the predecessor divides one of its factors, and these are prime.
  rw [← product] at divides
  obtain ⟨factor, member, divides⟩ := (Prime.dvd_prod_iff prime.prime).1 divides
  obtain ⟨familiar, differs⟩ := parts factor member
  obtain rfl := (Nat.prime_dvd_prime_iff_eq prime (primes factor familiar)).1 divides
  exact fun one => differs ((natCast_pow_eq_one_iff large _ _).1 one)

/-- If all numbers in `known` are prime, so are the numbers that are `Certified`. -/
theorem Certified.prime {known : List Nat} {cs : List Certificate} (certified : Certified known cs)
    (primes : ∀ q ∈ known, q.Prime) {p : Nat} (member : p ∈ cs.map Certificate.number) :
    p.Prime := by
  induction cs generalizing known with
  | nil => exact nomatch member
  | cons c rest ih =>
    have first : c.number.Prime := certified.1.prime primes
    rcases List.mem_cons.1 member with rfl | later
    · exact first
    · refine ih certified.2 (fun q familiar => ?_) later
      rcases List.mem_cons.1 familiar with rfl | old
      · exact first
      · exact primes q old

/-! ### The two primes -/

/-- The primes that are small enough to be seen as such. -/
def smallPrimes : List Nat := [2, 3, 5, 7, 11, 17, 19, 29, 31, 41, 53, 59, 97, 101, 103, 109, 113,
  149, 239, 293, 461, 631, 797, 971, 1373, 1627, 1871, 2011, 2621, 2657, 2731, 2861, 4051, 4423,
  5323, 7723, 9349, 13441, 16699, 20113, 24809, 28181]

/-- The certificates of the number of elements of the field, of the order of the group, and of the
primes that these rest on. -/
def certificates : List Certificate := [
  ⟨13331831, 13, [2, 5, 971, 1373]⟩,
  ⟨173378833005251801, 6, [2, 2, 2, 5, 5, 2621, 24809, 13331831]⟩,
  ⟨22149492674086928081353, 5, [2, 2, 2, 3, 5323, 173378833005251801]⟩,
  ⟨132896956044521568488119, 6, [2, 3, 22149492674086928081353]⟩,
  ⟨41201, 3, [2, 2, 2, 2, 5, 5, 103]⟩,
  ⟨96557, 2, [2, 2, 101, 239]⟩,
  ⟨1206781, 10, [2, 2, 3, 5, 20113]⟩,
  ⟨7240687, 3, [2, 3, 1206781]⟩,
  ⟨107590001, 3, [2, 2, 2, 2, 5, 5, 5, 5, 7, 29, 53]⟩,
  ⟨255515944373312847190720520512484175977, 3,
    [2, 2, 2, 7, 7, 11, 1627, 2657, 4423, 41201, 96557, 7240687, 107590001]⟩,
  ⟨205115282021455665897114700593932402728804164701536103180137503955397371, 10,
    [2, 3, 5, 29, 29, 31, 7723, 132896956044521568488119,
      255515944373312847190720520512484175977]⟩,
  ⟨fieldSize, 3,
    [2, 3, 7, 13441, 205115282021455665897114700593932402728804164701536103180137503955397371]⟩,
  ⟨85831, 3, [2, 3, 5, 2861]⟩,
  ⟨4681609, 23, [2, 2, 2, 3, 97, 2011]⟩,
  ⟨107361793816595537, 3, [2, 2, 2, 2, 16699, 85831, 4681609]⟩,
  ⟨120233, 3, [2, 2, 2, 7, 19, 113]⟩,
  ⟨44706919, 6, [2, 3, 797, 9349]⟩,
  ⟨174723607534414371449, 3, [2, 2, 2, 17, 59, 4051, 120233, 44706919]⟩,
  ⟨305873, 3, [2, 2, 2, 2, 7, 2731]⟩,
  ⟨545358713, 5, [2, 2, 2, 41, 59, 28181]⟩,
  ⟨1627771, 3, [2, 3, 5, 29, 1871]⟩,
  ⟨297159362677, 2, [2, 2, 3, 3, 11, 461, 1627771]⟩,
  ⟨29047611873442575647497758179, 2, [2, 293, 305873, 545358713, 297159362677]⟩,
  ⟨341948486974166000522343609283189, 2, [2, 2, 3, 3, 3, 109, 29047611873442575647497758179]⟩,
  ⟨order, 7, [2, 2, 2, 2, 2, 2, 3, 149, 631, 107361793816595537, 174723607534414371449,
    341948486974166000522343609283189]⟩]

theorem prime_of_mem_smallPrimes : ∀ q ∈ smallPrimes, q.Prime := by
  simp only [smallPrimes, List.forall_mem_cons]
  norm_num

theorem certified_certificates : Certified smallPrimes certificates := by decide +kernel

theorem prime_fieldSize : fieldSize.Prime :=
  certified_certificates.prime prime_of_mem_smallPrimes (by simp [certificates])

theorem prime_order : order.Prime :=
  certified_certificates.prime prime_of_mem_smallPrimes (by simp [certificates])

end StateChannel.Curve
