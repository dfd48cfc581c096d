import Mathlib.Algebra.Group.Nat.Defs
import Mathlib.Data.List.Basic
import StateChannel.Bytes.Base64
import StateChannel.Bytes.Words

/-!
# Bytes survive being written

Hexadecimal text and base64 text determine the bytes that they are written for, whatever their
number. Both are made of digits, and base64 of padding too, so that neither breaks a line. Bytes in
turn determine the number that they are written for, if it fits.

## Main results

* `Bytes.ofText_injective`: different texts have different UTF-8 forms
* `Bytes.ofText_eq_flatMap`: the UTF-8 form of a text, character by character
* `Bytes.ofText_digits`: decimal digits take a byte each
* `Bytes.toNat_ofNat`: so many bytes hold a number up to the number of their values
* `Hex.filterMap_value?_encode`, `Hex.encode_injective`: the digits of a text give its bytes back
* `Base64.decodeChars_encodeChars`, `Base64.decode?_encode`: strict reading undoes writing
* `Base64.encode_injective`: different byte strings have different texts
-/

namespace StateChannel

/-- A text is determined by its UTF-8 form. -/
theorem Bytes.ofText_injective : Function.Injective ofText := by
  intro text other same
  have array : text.toUTF8.data = other.toUTF8.data := Array.toList_inj.1 same
  exact String.toByteArray_inj.1 (congrArg ByteArray.mk array)

/-- The UTF-8 form of `text` is that of its characters. -/
theorem Bytes.ofText_eq_flatMap (text : String) :
    ofText text = text.toList.flatMap String.utf8EncodeChar := by
  have characters : (String.ofList text.toList).toByteArray = text.toList.utf8Encode :=
    String.toByteArray_ofList
  rw [String.ofList_toList] at characters
  show text.toByteArray.data.toList = _
  rw [characters]
  simp [List.utf8Encode]

theorem Char.toNat_bounds_of_isDigit {c : Char} (digit : c.isDigit = true) :
    48 ≤ c.toNat ∧ c.toNat ≤ 57 := by
  simpa [Char.isDigit, UInt32.le_iff_toNat_le] using digit

/-- Decimal digits `cs` are written in a byte each. -/
theorem Bytes.ofText_digits {cs : List Char} (digits : ∀ c ∈ cs, c.isDigit = true) :
    ofText (String.ofList cs) = cs.map fun c => UInt8.ofNat c.toNat := by
  have single (c : Char) (member : c ∈ cs) :
      String.utf8EncodeChar c = [UInt8.ofNat c.toNat] := by
    have small : c.toNat ≤ 127 :=
      Nat.le_trans (Char.toNat_bounds_of_isDigit (digits c member)).2 (by decide)
    exact if_pos small
  rw [ofText_eq_flatMap, String.toList_ofList, List.map_eq_flatMap]
  exact List.flatMap_congr single

/-! ### Numbers -/

theorem Bytes.toNatLittle_ofNatLittle (count n : Nat) :
    toNatLittle (ofNatLittle count n) = n % 256 ^ count := by
  induction count generalizing n with
  | zero => rw [Nat.pow_zero, Nat.mod_one]; rfl
  | succ count ih =>
    have low : (UInt8.ofNat n).toNat = n % 256 := UInt8.toNat_ofNat'
    calc toNatLittle (ofNatLittle (count + 1) n)
        = 256 * toNatLittle (ofNatLittle count (n / 256)) + (UInt8.ofNat n).toNat := rfl
      _ = n % 256 + 256 * (n / 256 % 256 ^ count) := by rw [ih, low, Nat.add_comm]
      _ = n % 256 ^ (count + 1) := by rw [Nat.pow_succ', Nat.mod_mul]

/-- A number `n` that fits `count` bytes is read back. -/
theorem Bytes.toNat_ofNat {count n : Nat} (fits : n < 256 ^ count) :
    toNat (ofNat count n) = n := by
  calc toNat (ofNat count n) = toNatLittle (ofNatLittle count n) := by
        rw [toNat, ofNat, List.foldl_reverse, toNatLittle]
    _ = n := by rw [toNatLittle_ofNatLittle, Nat.mod_eq_of_lt fits]

/-! ### Hexadecimal text -/

namespace Hex

theorem lt_of_mem_nibbles {b : UInt8} {n : Nat} (member : n ∈ nibbles b) : n < 16 := by
  have bound := b.toNat_lt
  simp only [nibbles, List.mem_cons, List.not_mem_nil, or_false] at member
  omega

theorem filterMap_value?_digit {ns : List Nat} (small : ∀ n ∈ ns, n < 16) :
    (ns.map digit).filterMap value? = ns := by
  induction ns with
  | nil => rfl
  | cons n ns ih =>
    have read : value? (digit n) = some n := value?_digit (small n List.mem_cons_self)
    have others := ih fun m member => small m (List.mem_cons_of_mem n member)
    simp [read, others]

/-- The values of the digits of `encode bs` are the halves of `bs`. -/
theorem filterMap_value?_encode (bs : Bytes) :
    (encode bs).toList.filterMap value? = bs.flatMap nibbles := by
  rw [encode, String.toList_ofList]
  apply filterMap_value?_digit
  intro n member
  obtain ⟨b, _, half⟩ := List.mem_flatMap.1 member
  exact lt_of_mem_nibbles half

theorem encode_injective : Function.Injective encode := by
  intro bs other same
  have halves : bs.flatMap nibbles = other.flatMap nibbles := by
    rw [← filterMap_value?_encode, same, filterMap_value?_encode]
  calc bs = pack (bs.flatMap nibbles) := (pack_nibbles bs).symm
    _ = pack (other.flatMap nibbles) := by rw [halves]
    _ = other := pack_nibbles other

theorem isDigit_of_mem_text {bs : Bytes} {c : Char} (member : c ∈ (encode bs).toList) :
    IsDigit c := by
  rw [encode, String.toList_ofList] at member
  obtain ⟨n, half, rfl⟩ := List.mem_map.1 member
  obtain ⟨b, _, inside⟩ := List.mem_flatMap.1 half
  rw [IsDigit, value?_digit (lt_of_mem_nibbles inside)]
  rfl

end Hex

/-! ### Base64 text -/

namespace Base64

/-- A base64 digit is no padding. -/
theorem digit_ne_padding {n : Nat} (small : n < 64) : digit n ≠ '=' := by
  intro same
  have value := value?_digit small
  have none : value? '=' = none := by decide
  rw [same, none] at value
  exact nomatch value

/-! The bits of one, two or three bytes come together again. -/

theorem decodeOne_encodeOne (a : UInt8) :
    decodeOne (digit (a.toNat / 4)) (digit (a.toNat % 4 * 16)) = some [a] := by
  have first := a.toNat_lt
  have high : a.toNat / 4 < 64 := by omega
  have low : a.toNat % 4 * 16 < 64 := by omega
  have unused : a.toNat % 4 * 16 % 16 = 0 := by omega
  have joined : a.toNat / 4 * 4 + a.toNat % 4 * 16 / 16 = a.toNat := by omega
  rw [decodeOne, value?_digit high, value?_digit low]
  refine (if_pos unused).trans ?_
  rw [joined, UInt8.ofNat_toNat]

theorem decodeTwo_encodeTwo (a b : UInt8) :
    decodeTwo (digit (a.toNat / 4)) (digit (a.toNat % 4 * 16 + b.toNat / 16))
      (digit (b.toNat % 16 * 4)) = some [a, b] := by
  have first := a.toNat_lt
  have second := b.toNat_lt
  have high : a.toNat / 4 < 64 := by omega
  have middle : a.toNat % 4 * 16 + b.toNat / 16 < 64 := by omega
  have low : b.toNat % 16 * 4 < 64 := by omega
  have unused : b.toNat % 16 * 4 % 4 = 0 := by omega
  have joined : a.toNat / 4 * 4 + (a.toNat % 4 * 16 + b.toNat / 16) / 16 = a.toNat := by omega
  have joined' : (a.toNat % 4 * 16 + b.toNat / 16) % 16 * 16 + b.toNat % 16 * 4 / 4 = b.toNat := by
    omega
  rw [decodeTwo, value?_digit high, value?_digit middle, value?_digit low]
  refine (if_pos unused).trans ?_
  rw [joined, joined', UInt8.ofNat_toNat, UInt8.ofNat_toNat]

theorem decodeThree_encodeThree (a b c : UInt8) :
    decodeThree (digit (a.toNat / 4)) (digit (a.toNat % 4 * 16 + b.toNat / 16))
      (digit (b.toNat % 16 * 4 + c.toNat / 64)) (digit (c.toNat % 64)) = some [a, b, c] := by
  have first := a.toNat_lt
  have second := b.toNat_lt
  have third := c.toNat_lt
  -- Three bytes are four numbers of six bits, and the bits come back where they were.
  have p : a.toNat / 4 < 64 := by omega
  have q : a.toNat % 4 * 16 + b.toNat / 16 < 64 := by omega
  have r : b.toNat % 16 * 4 + c.toNat / 64 < 64 := by omega
  have s : c.toNat % 64 < 64 := by omega
  have joined : a.toNat / 4 * 4 + (a.toNat % 4 * 16 + b.toNat / 16) / 16 = a.toNat := by omega
  have joined' : (a.toNat % 4 * 16 + b.toNat / 16) % 16 * 16 +
      (b.toNat % 16 * 4 + c.toNat / 64) / 4 = b.toNat := by omega
  have joined'' : (b.toNat % 16 * 4 + c.toNat / 64) % 4 * 64 + c.toNat % 64 = c.toNat := by omega
  rw [decodeThree, value?_digit p, value?_digit q, value?_digit r, value?_digit s]
  show some [UInt8.ofNat _, UInt8.ofNat _, UInt8.ofNat _] = some [a, b, c]
  rw [joined, joined', joined'', UInt8.ofNat_toNat, UInt8.ofNat_toNat, UInt8.ofNat_toNat]

/-- A full group `p`, `q`, `r`, `s` is read in front of any `rest` that is read. -/
theorem decodeChars_of_decodeThree {p q r s : Char} {three others : Bytes} {rest : List Char}
    (full : s ≠ '=') (group : decodeThree p q r s = some three)
    (later : decodeChars rest = some others) :
    decodeChars (p :: q :: r :: s :: rest) = some (three ++ others) := by
  cases rest with
  | nil =>
    -- The group is the last one, which might have been padded.
    obtain rfl : [] = others := Option.some.inj later
    simp [decodeChars, decodeLast, full, group]
  | cons c rest => simp [decodeChars, group, later]

theorem decodeChars_encodeChars (bs : Bytes) : decodeChars (encodeChars bs) = some bs := by
  induction bs using encodeChars.induct with
  | case1 => rfl
  | case2 a =>
    simp [encodeChars, encodeOne, decodeChars, decodeLast, decodeOne_encodeOne]
  | case3 a b =>
    have bound := b.toNat_lt
    have full := digit_ne_padding (n := b.toNat % 16 * 4) (by omega)
    simp [encodeChars, encodeTwo, decodeChars, decodeLast, full, decodeTwo_encodeTwo]
  | case4 a b c rest ih =>
    have full := digit_ne_padding (n := c.toNat % 64) (Nat.mod_lt _ (by decide))
    exact decodeChars_of_decodeThree full (decodeThree_encodeThree a b c) ih

theorem decode?_encode (bs : Bytes) : decode? (encode bs) = some bs := by
  rw [decode?, encode, String.toList_ofList]
  exact decodeChars_encodeChars bs

theorem encode_injective : Function.Injective encode := by
  intro bs other same
  have read : some bs = some other := by
    rw [← decode?_encode bs, same, decode?_encode]
  exact Option.some.inj read

/-! ### Its characters -/

/-- A character of base64 text: a digit or padding. -/
def IsSymbol (c : Char) : Prop := (value? c).isSome ∨ c = '='

theorem isSymbol_digit {n : Nat} (small : n < 64) : IsSymbol (digit n) := by
  left
  rw [value?_digit small]
  rfl

theorem isSymbol_of_mem_encodeChars {bs : Bytes} {c : Char} (member : c ∈ encodeChars bs) :
    IsSymbol c := by
  have padding : IsSymbol '=' := .inr rfl
  -- One byte makes two digits and two paddings, two bytes make three and one, three make four.
  induction bs using encodeChars.induct with
  | case1 => exact nomatch member
  | case2 a =>
    have first := a.toNat_lt
    simp only [encodeChars, encodeOne, List.mem_cons, List.not_mem_nil, or_false] at member
    rcases member with rfl | rfl | rfl | rfl
    · exact isSymbol_digit (by omega)
    · exact isSymbol_digit (by omega)
    · exact padding
    · exact padding
  | case3 a b =>
    have first := a.toNat_lt
    have second := b.toNat_lt
    simp only [encodeChars, encodeTwo, List.mem_cons, List.not_mem_nil, or_false] at member
    rcases member with rfl | rfl | rfl | rfl
    · exact isSymbol_digit (by omega)
    · exact isSymbol_digit (by omega)
    · exact isSymbol_digit (by omega)
    · exact padding
  | case4 a b d rest ih =>
    have first := a.toNat_lt
    have second := b.toNat_lt
    have third := d.toNat_lt
    rw [encodeChars, List.mem_append] at member
    rcases member with group | later
    · simp only [encodeThree, List.mem_cons, List.not_mem_nil, or_false] at group
      rcases group with rfl | rfl | rfl | rfl <;> exact isSymbol_digit (by omega)
    · exact ih later

end Base64

end StateChannel
