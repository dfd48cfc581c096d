import StateChannel.Bytes.Hex

/-!
# Numbers and blocks in byte strings

Byte strings read as numbers, most or least significant byte first, and cut into blocks.

## Main definitions

* `Bytes.toNat`, `Bytes.ofNat`: numbers, most significant byte first
* `Bytes.toNatLittle`, `Bytes.ofNatLittle`: numbers, least significant byte first
* `Bytes.blocks`: cuts into blocks of one size
* `Bytes.ofText`: the UTF-8 form of a text
-/

namespace StateChannel.Bytes

/-- The UTF-8 form of a text. -/
def ofText (text : String) : Bytes := text.toUTF8.data.toList

/-- The number a byte string stands for, most significant byte first. -/
def toNat (bs : Bytes) : Nat := bs.foldl (fun n b => 256 * n + b.toNat) 0

/-- The number a byte string stands for, least significant byte first. -/
def toNatLittle (bs : Bytes) : Nat := bs.foldr (fun b n => 256 * n + b.toNat) 0

/-- The lowest `count` bytes of a number, least significant byte first. -/
def ofNatLittle (count : Nat) (n : Nat) : Bytes :=
  match count with
  | 0 => []
  | count + 1 => UInt8.ofNat n :: ofNatLittle count (n / 256)

/-- The lowest `count` bytes of a number, most significant byte first. -/
def ofNat (count : Nat) (n : Nat) : Bytes := (ofNatLittle count n).reverse

/-- Cuts a byte string into blocks of `size` bytes; the last may be shorter. -/
def blocks (size : Nat) (bs : Bytes) : List Bytes :=
  if h : 0 < size ∧ bs ≠ [] then
    have := List.length_pos_iff.2 h.2
    bs.take size :: blocks size (bs.drop size)
  else []
termination_by bs.length
decreasing_by
  simp only [List.length_drop]
  omega

@[simp]
theorem length_ofNatLittle (count n : Nat) : (ofNatLittle count n).length = count := by
  induction count generalizing n with
  | zero => rfl
  | succ count ih => simp [ofNatLittle, ih]

@[simp]
theorem length_ofNat (count n : Nat) : (ofNat count n).length = count := by
  simp [ofNat]

theorem toNat_append (as bs : Bytes) :
    toNat (as ++ bs) = Nat.pow 256 bs.length * toNat as + toNat bs := by
  have shift (bs : Bytes) (n : Nat) :
      bs.foldl (fun n b => 256 * n + b.toNat) n = Nat.pow 256 bs.length * n + toNat bs := by
    induction bs generalizing n with
    | nil => simp [toNat]
    | cons b bs ih =>
      have one := ih b.toNat
      simp only [List.foldl_cons, toNat, Nat.mul_zero, Nat.zero_add, List.length_cons]
      have next : Nat.pow 256 (bs.length + 1) = Nat.pow 256 bs.length * 256 := rfl
      rw [ih, one, next, Nat.mul_add, Nat.mul_assoc, Nat.add_assoc]
  rw [toNat, List.foldl_append, shift]
  rfl

end StateChannel.Bytes
