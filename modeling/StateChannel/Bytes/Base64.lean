import StateChannel.Bytes.Hex

/-!
# Base64 text

The standard alphabet with padding. Reading is strict: the text consists of groups of four, only the
last group may be padded, and the bits that padding leaves unused are zero. So every byte string has
exactly one text. A second way of reading lets padding be left out.

## Main definitions

* `Base64.encode`, `Base64.decode?`: writing and strict reading
* `Base64.decodeUnpadded?`: reading where padding may be left out

## Main results

* `Base64.value?_digit`: a written digit reads back
* `Base64.decodeUnpadded?_of_length`: in whole groups both ways of reading agree
-/

namespace StateChannel.Base64

/-- The digit of a number below sixty-four. -/
def digit (n : Nat) : Char :=
  if n < 26 then Char.ofNat (65 + n)
  else if n < 52 then Char.ofNat (71 + n)
  else if n < 62 then Char.ofNat (n - 4)
  else if n = 62 then '+' else '/'

/-- The value of a digit. The padding character has none. -/
def value? (c : Char) : Option Nat :=
  if 'A' ≤ c ∧ c ≤ 'Z' then some (c.toNat - 65)
  else if 'a' ≤ c ∧ c ≤ 'z' then some (c.toNat - 71)
  else if '0' ≤ c ∧ c ≤ '9' then some (c.toNat + 4)
  else if c = '+' then some 62
  else if c = '/' then some 63
  else none

/-- The digits of one byte, two bytes or three. -/
def encodeOne (a : UInt8) : List Char :=
  [digit (a.toNat / 4), digit (a.toNat % 4 * 16), '=', '=']

@[inherit_doc encodeOne]
def encodeTwo (a b : UInt8) : List Char :=
  [digit (a.toNat / 4), digit (a.toNat % 4 * 16 + b.toNat / 16), digit (b.toNat % 16 * 4), '=']

@[inherit_doc encodeOne]
def encodeThree (a b c : UInt8) : List Char :=
  [digit (a.toNat / 4), digit (a.toNat % 4 * 16 + b.toNat / 16),
    digit (b.toNat % 16 * 4 + c.toNat / 64), digit (c.toNat % 64)]

/-- The digits of a byte string, in groups of four. -/
def encodeChars : Bytes → List Char
  | [] => []
  | [a] => encodeOne a
  | [a, b] => encodeTwo a b
  | a :: b :: c :: rest => encodeThree a b c ++ encodeChars rest

/-- The text of a byte string. -/
def encode (bs : Bytes) : String := String.ofList (encodeChars bs)

/-- Reads a full group. -/
def decodeThree (p q r s : Char) : Option Bytes := do
  let w ← value? p
  let x ← value? q
  let y ← value? r
  let z ← value? s
  some [UInt8.ofNat (w * 4 + x / 16), UInt8.ofNat (x % 16 * 16 + y / 4),
    UInt8.ofNat (y % 4 * 64 + z)]

/-- Reads a group that stands for two bytes. -/
def decodeTwo (p q r : Char) : Option Bytes := do
  let w ← value? p
  let x ← value? q
  let y ← value? r
  if y % 4 = 0 then some [UInt8.ofNat (w * 4 + x / 16), UInt8.ofNat (x % 16 * 16 + y / 4)] else none

/-- Reads a group that stands for one byte. -/
def decodeOne (p q : Char) : Option Bytes := do
  let w ← value? p
  let x ← value? q
  if x % 16 = 0 then some [UInt8.ofNat (w * 4 + x / 16)] else none

/-- Reads the last group, the only one that may be padded. -/
def decodeLast (p q r s : Char) : Option Bytes :=
  if s = '=' then
    if r = '=' then decodeOne p q else decodeTwo p q r
  else decodeThree p q r s

/-- Reads digits in groups of four. -/
def decodeChars : List Char → Option Bytes
  | [] => some []
  | [p, q, r, s] => decodeLast p q r s
  | p :: q :: r :: s :: rest => do
    let three ← decodeThree p q r s
    let others ← decodeChars rest
    some (three ++ others)
  | _ => none

/-- Reads a text; `none` when it is not the text of any byte string. -/
def decode? (text : String) : Option Bytes := decodeChars text.toList

/-- The padding that completes the last group. -/
def padding (cs : List Char) : List Char := List.replicate ((4 - cs.length % 4) % 4) '='

/-- Reads a text whose padding may be left out in part or in full. -/
def decodeUnpadded? (text : String) : Option Bytes :=
  decodeChars (text.toList ++ padding text.toList)

theorem value?_digit {n : Nat} (h : n < 64) : value? (digit n) = some n := by
  have all : ∀ k : Fin 64, value? (digit k) = some k.val := by decide
  exact all ⟨n, h⟩

theorem decodeUnpadded?_of_length {text : String} (h : text.toList.length % 4 = 0) :
    decodeUnpadded? text = decode? text := by
  rw [decodeUnpadded?, decode?, padding, h]
  simp

end StateChannel.Base64
