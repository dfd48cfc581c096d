/-!
# Hexadecimal text

Bytes are lists of octets. A byte is written as two lower case digits, the high half first; reading
accepts digits of either case.

## Main definitions

* `Bytes`: the byte strings of this library
* `Hex.encode`, `Hex.decode`: writing and reading
* `HexError`: what is wrong with a text that is no hexadecimal text

## Main results

* `Hex.value?_digit`: a written digit reads back
* `Hex.pack_nibbles`: the two halves of every byte determine it
* `Hex.length_encode`: a text is twice as long as its bytes
-/

namespace StateChannel

/-- A byte string. -/
abbrev Bytes := List UInt8

/-- Why a text is no hexadecimal text. -/
inductive HexError
  /-- The text has an odd number of bytes. -/
  | oddLength
  /-- The first byte that is no digit, with its position. -/
  | badByte (byte : UInt8) (position : Nat)
  deriving DecidableEq, Repr

namespace Hex

/-- The digit of a number below sixteen, in lower case. -/
def digit (n : Nat) : Char :=
  if n < 10 then Char.ofNat (48 + n) else Char.ofNat (87 + n)

/-- The value of a digit of either case. -/
def value? (c : Char) : Option Nat :=
  if '0' ≤ c ∧ c ≤ '9' then some (c.toNat - 48)
  else if 'a' ≤ c ∧ c ≤ 'f' then some (c.toNat - 87)
  else if 'A' ≤ c ∧ c ≤ 'F' then some (c.toNat - 55)
  else none

/-- A character is a digit when it has a value. -/
def IsDigit (c : Char) : Prop := (value? c).isSome

instance (c : Char) : Decidable (IsDigit c) := inferInstanceAs (Decidable (_ = true))

/-- The two halves of a byte, the high one first. -/
def nibbles (b : UInt8) : List Nat := [b.toNat / 16, b.toNat % 16]

/-- The text of a byte string. -/
def encode (bs : Bytes) : String :=
  String.ofList ((bs.flatMap nibbles).map digit)

/-- Joins halves into bytes; a half left over is dropped. -/
def pack : List Nat → Bytes
  | high :: low :: rest => UInt8.ofNat (16 * high + low) :: pack rest
  | _ => []

/-- The first byte of a character's UTF-8 form. -/
def leadByte (c : Char) : UInt8 :=
  let n := c.toNat
  if n < 0x80 then UInt8.ofNat n
  else if n < 0x800 then UInt8.ofNat (0xC0 + n / 64)
  else if n < 0x10000 then UInt8.ofNat (0xE0 + n / 4096)
  else UInt8.ofNat (0xF0 + n / 262144)

/-- Reads a text of digits. The length in bytes is looked at first. All characters before the first
bad one are digits and so single bytes, hence its index is also its position in bytes. -/
def decode (text : String) : Except HexError Bytes :=
  if text.utf8ByteSize % 2 ≠ 0 then
    .error .oddLength
  else
    let cs := text.toList
    match cs.dropWhile (fun c => decide (IsDigit c)) with
    | bad :: _ =>
      .error (.badByte (leadByte bad) (cs.takeWhile (fun c => decide (IsDigit c))).length)
    | [] => .ok (pack (cs.filterMap value?))

theorem value?_digit {n : Nat} (h : n < 16) : value? (digit n) = some n := by
  have all : ∀ k : Fin 16, value? (digit k) = some k.val := by decide
  exact all ⟨n, h⟩

theorem pack_nibbles (bs : Bytes) : pack (bs.flatMap nibbles) = bs := by
  induction bs with
  | nil => rfl
  | cons b rest ih =>
    have join : UInt8.ofNat (16 * (b.toNat / 16) + b.toNat % 16) = b := by
      rw [Nat.div_add_mod, UInt8.ofNat_toNat]
    show UInt8.ofNat (16 * (b.toNat / 16) + b.toNat % 16) :: pack (rest.flatMap nibbles) = b :: rest
    rw [join, ih]

theorem length_encode (bs : Bytes) : (encode bs).length = 2 * bs.length := by
  have count : (bs.flatMap nibbles).length = 2 * bs.length := by
    induction bs with
    | nil => rfl
    | cons b rest ih =>
      simp only [List.flatMap_cons, List.length_append, List.length_cons, ih]
      simp [nibbles]
      omega
  simp [encode, count]

end Hex

end StateChannel
