import StateChannel.Decimal.Binary64

/-!
# The shortest decimal text of a floating-point number

Of all decimal numbers that read back as a given floating-point number those with the fewest digits
are taken, and of these the nearest.

## Main definitions

* `Shortest.digits`: the digits, as a natural number and a power of ten
* `Binary64.text`: the written form, positional for middle sizes and with a signed exponent
  otherwise

## Main results

* `Shortest.sound`: what `digits` tries and takes lies in the interval of numbers that round back
-/

namespace StateChannel

/-- A positive decimal number `digits * 10 ^ exponent`. -/
structure Decimal where
  digits : Nat
  exponent : Int
  deriving DecidableEq, Repr

namespace Shortest

/-- The interval of the numbers that round to one floating-point number: numerators of its ends and
its middle over one denominator, and whether the ends belong to it. -/
structure Interval where
  low : Nat
  middle : Nat
  high : Nat
  denominator : Nat
  closed : Bool

/-- The interval of a positive number. Below a power of two the gap to the next smaller number is
half as wide. -/
def Interval.of (x : Binary64) : Interval :=
  -- In quarters of the last place the ends are whole: half a place is two of them.
  let narrow := x.significand = Binary64.topBit ∧ x.exponent ≠ Binary64.minExponent
  let up := Nat.pow 2 (x.exponent - 2).toNat
  let down := Nat.pow 2 (2 - x.exponent).toNat
  { low := (4 * x.significand - if narrow then 1 else 2) * up
    middle := 4 * x.significand * up
    high := (4 * x.significand + 2) * up
    denominator := down
    closed := x.significand % 2 = 0 }

/-- The numerator and the denominator of a decimal number. -/
def fraction (d : Decimal) : Nat × Nat :=
  (d.digits * Nat.pow 10 d.exponent.toNat, Nat.pow 10 (-d.exponent).toNat)

/-- A decimal number lies in an interval. -/
def Interval.Holds (i : Interval) (d : Decimal) : Prop :=
  let (n, e) := fraction d
  (i.low * e < n * i.denominator ∨ i.closed ∧ i.low * e = n * i.denominator) ∧
    (n * i.denominator < i.high * e ∨ i.closed ∧ n * i.denominator = i.high * e)

instance (i : Interval) (d : Decimal) : Decidable (i.Holds d) := by
  unfold Interval.Holds
  exact inferInstance

/-- The place of the first decimal digit of a positive quotient:
`10 ^ place ≤ n / d < 10 ^ (place + 1)`. -/
def place (n d : Nat) : Int :=
  if d ≤ n then ((Nat.toDigits 10 (n / d)).length : Int) - 1
  else -((Nat.toDigits 10 ((d + n - 1) / n - 1)).length : Int)

/-- The middle in units of the grid `10 ^ exponent`: a numerator and a denominator. -/
def onGrid (i : Interval) (exponent : Int) : Nat × Nat :=
  (i.middle * Nat.pow 10 (-exponent).toNat, i.denominator * Nat.pow 10 exponent.toNat)

/-- The two neighbours of the middle on the grid `10 ^ exponent`, the nearer one first; of two that
are equally near, the even one. -/
def neighbours (i : Interval) (exponent : Int) : List Decimal :=
  let (n, d) := onGrid i exponent
  let below := n / d
  let nearer := Binary64.roundHalfEven n d
  let other := if nearer = below then below + 1 else below
  [⟨nearer, exponent⟩, ⟨other, exponent⟩]

/-- Tries ever finer grids until one has a neighbour in the interval. -/
def refine (i : Interval) (exponent : Int) : Nat → Decimal
  | 0 => ⟨(onGrid i exponent).1 / (onGrid i exponent).2, exponent⟩
  | more + 1 =>
    match (neighbours i exponent).find? (fun d => decide (i.Holds d)) with
    | some d => d
    | none => refine i (exponent - 1) more

/-- Moves zeros at the end of the digits into the exponent. -/
def trim (d : Decimal) : Nat → Decimal
  | 0 => d
  | more + 1 =>
    if d.digits % 10 = 0 ∧ d.digits ≠ 0 then trim ⟨d.digits / 10, d.exponent + 1⟩ more else d

/-- The shortest decimal number that reads back as a positive floating-point number. Seventeen
digits always suffice. -/
def digits (x : Binary64) : Decimal :=
  let i := Interval.of x
  trim (refine i (place i.middle i.denominator) 17) 17

theorem sound {i : Interval} {exponent : Int} {d : Decimal}
    (h : (neighbours i exponent).find? (fun d => decide (i.Holds d)) = some d) : i.Holds d := by
  simpa using List.find?_some h

end Shortest

/-- Where positional notation is used: `10 ^ lowest ≤ x < 10 ^ beyond`. -/
structure PositionalRange where
  lowest : Int
  beyond : Int

/-- Numbers from a hundred-thousandth up to ten to the sixteenth are written positionally. -/
def Binary64.positional : PositionalRange := ⟨-5, 16⟩

/-- The text of a decimal number whose first digit has the given place: positional with at least one
digit after the point, or one digit before the point and a signed exponent of two digits or more as
needed. -/
def Decimal.text (d : Decimal) : String :=
  let cs := Nat.toDigits 10 d.digits
  let place : Int := cs.length + d.exponent - 1
  if Binary64.positional.lowest ≤ place ∧ place < Binary64.positional.beyond then
    if place < 0 then
      String.ofList ('0' :: '.' :: List.replicate (-place - 1).toNat '0' ++ cs)
    else
      let whole := (cs.take (place + 1).toNat) ++ List.replicate d.exponent.toNat '0'
      let part := cs.drop (place + 1).toNat
      String.ofList (whole ++ '.' :: (if part = [] then ['0'] else part))
  else
    let mark := if place < 0 then ['e', '-'] else ['e', '+']
    let point := if cs.length ≤ 1 then [] else ['.']
    String.ofList (cs.take 1 ++ point ++ cs.drop 1 ++ mark ++ Nat.toDigits 10 place.natAbs)

/-- The text of a floating-point number; zero keeps its sign. -/
def Binary64.text (x : Binary64) : String :=
  let size := if x.significand = 0 then "0.0" else (Shortest.digits x).text
  if x.negative then "-" ++ size else size

end StateChannel
