import Mathlib.Data.List.TakeWhile
import StateChannel.Proofs.Bytes.Codecs

/-!
# Hexadecimal text, byte by byte

Reading goes through the characters of a text. What it makes of the text is told here by the bytes
of its UTF-8 form, in which a character that is no digit may take several: an odd number of bytes is
refused first, then the first byte that is no digit. All other texts are read as the bytes whose
text they are in lower case. The order of written texts is the order of their bytes.

## Main definitions

* `Hex.IsDigitByte`, `Hex.AllDigits`: the bytes of digits of either case
* `Hex.FirstBad`: the first byte that is no digit, with its position

## Main results

* `Hex.isDigitByte_leadByte`: a character begins with the byte of a digit only if it is one
* `Hex.decode_cases`: what reading makes of a text
* `Hex.decode_eq_oddLength_iff`, `Hex.decode_eq_badByte_iff`: which texts are refused, and how
* `Hex.decode_eq_ok_iff`: a text is read as the bytes whose text it is in lower case
* `Hex.compareLex_ofText_encode`: byte strings and their texts have one order
-/

namespace StateChannel.Hex

variable {text : String} {bs : Bytes} {b b' : UInt8} {c : Char} {cs : List Char} {n i i' : Nat}

/-! ### Digits -/

/-- The byte `b` is that of a hexadecimal digit, in either case. -/
def IsDigitByte (b : UInt8) : Prop := b ∈ Bytes.ofText "0123456789abcdefABCDEF"

/-- All of `bs` are bytes of digits. -/
def AllDigits (bs : Bytes) : Prop := ∀ b ∈ bs, IsDigitByte b

/-- In `bs`, `byte` at `position` is the first that is no digit. -/
structure FirstBad (bs : Bytes) (byte : UInt8) (position : Nat) : Prop where
  stands : bs[position]? = some byte
  bad : ¬ IsDigitByte byte
  before : AllDigits (bs.take position)

instance (b : UInt8) : Decidable (IsDigitByte b) :=
  inferInstanceAs (Decidable (b ∈ Bytes.ofText "0123456789abcdefABCDEF"))

instance (bs : Bytes) : Decidable (AllDigits bs) := List.decidableBAll IsDigitByte bs

theorem isDigitByte_iff : IsDigitByte b ↔ 48 ≤ b.toNat ∧ b.toNat ≤ 57 ∨
    65 ≤ b.toNat ∧ b.toNat ≤ 70 ∨ 97 ≤ b.toNat ∧ b.toNat ≤ 102 := by
  have written : Bytes.ofText "0123456789abcdefABCDEF" = [48, 49, 50, 51, 52, 53, 54, 55, 56, 57,
      97, 98, 99, 100, 101, 102, 65, 66, 67, 68, 69, 70] := by decide
  rw [IsDigitByte, written]
  simp only [List.mem_cons, List.not_mem_nil, or_false, ← UInt8.toNat_inj, UInt8.toNat_ofNat]
  omega

/-- The value of a digit, by the number of its character. -/
theorem value?_eq (c : Char) : value? c =
    if 48 ≤ c.toNat ∧ c.toNat ≤ 57 then some (c.toNat - 48)
    else if 97 ≤ c.toNat ∧ c.toNat ≤ 102 then some (c.toNat - 87)
    else if 65 ≤ c.toNat ∧ c.toNat ≤ 70 then some (c.toNat - 55)
    else none := by
  simp only [value?, Char.le_def, UInt32.le_iff_toNat_le]
  rfl

theorem isDigit_iff : IsDigit c ↔ 48 ≤ c.toNat ∧ c.toNat ≤ 57 ∨ 65 ≤ c.toNat ∧ c.toNat ≤ 70 ∨
    97 ≤ c.toNat ∧ c.toNat ≤ 102 := by
  rw [IsDigit, value?_eq]
  split_ifs <;> simp <;> omega

theorem toNat_digit (small : n < 16) : (digit n).toNat = if n < 10 then 48 + n else 87 + n := by
  have all : ∀ k : Fin 16, (digit k).toNat = if k.val < 10 then 48 + k.val else 87 + k.val := by
    decide
  exact all ⟨n, small⟩

/-! ### Case -/

theorem toNat_toLower (c : Char) :
    c.toLower.toNat = if 65 ≤ c.toNat ∧ c.toNat ≤ 90 then c.toNat + 32 else c.toNat := by
  have upper : c.val ≥ 'A'.val ∧ c.val ≤ 'Z'.val ↔ 65 ≤ c.toNat ∧ c.toNat ≤ 90 := by
    simp [UInt32.le_iff_toNat_le]
  unfold Char.toLower
  split_ifs with range bounds bounds
  · have fits : c.val.toNat + 32 < 2 ^ 32 :=
      Nat.lt_of_le_of_lt (Nat.add_le_add_right bounds.2 32) (by decide)
    exact (UInt32.toNat_add c.val 32).trans (Nat.mod_eq_of_lt fits)
  · exact absurd (upper.1 range) bounds
  · exact absurd (upper.2 bounds) range
  · rfl

theorem toList_toLower (text : String) : text.toLower.toList = text.toList.map Char.toLower :=
  String.toList_map

theorem isDigit_toLower : IsDigit c.toLower ↔ IsDigit c := by
  rw [isDigit_iff, isDigit_iff, toNat_toLower]
  split_ifs <;> omega

/-- A character `c` has the value `n` exactly when it is the digit of `n` in lower case. -/
theorem value?_eq_some_iff : value? c = some n ↔ n < 16 ∧ digit n = c.toLower := by
  rw [← Char.toNat_inj, toNat_toLower, value?_eq]
  by_cases small : n < 16
  · rw [toNat_digit small]
    split_ifs <;> simp <;> omega
  · split_ifs <;> simp <;> omega

theorem lt_of_mem_filterMap_value? (member : n ∈ cs.filterMap value?) : n < 16 := by
  obtain ⟨c, _, value⟩ := List.mem_filterMap.1 member
  exact (value?_eq_some_iff.1 value).1

/-- Digits `cs`, in lower case, are those that their values are written with. -/
theorem map_digit_filterMap_value? (digits : ∀ c ∈ cs, IsDigit c) :
    (cs.filterMap value?).map digit = cs.map Char.toLower := by
  induction cs with
  | nil => rfl
  | cons c cs ih =>
    obtain ⟨first, others⟩ := List.forall_mem_cons.1 digits
    obtain ⟨n, value⟩ := Option.isSome_iff_exists.1 first
    rw [List.filterMap_cons_some value, List.map_cons, List.map_cons,
      (value?_eq_some_iff.1 value).2, ih others]

/-! ### The bytes of a text -/

theorem toNat_le_max (c : Char) : c.toNat ≤ 0x10FFFF := by
  have valid : c.toNat < 0xD800 ∨ 0xDFFF < c.toNat ∧ c.toNat < 0x110000 := c.valid
  omega

/-- A character `c` is written with `leadByte c` in front, and a digit with nothing behind. -/
theorem utf8EncodeChar_eq_cons (c : Char) :
    ∃ rest, String.utf8EncodeChar c = leadByte c :: rest ∧ (IsDigit c → rest = []) := by
  have bound := toNat_le_max c
  have number : c.val.toNat = c.toNat := rfl
  -- The first byte takes the high bits, all of which it has room for.
  have two (range : c.toNat < 0x800) : c.toNat / 64 % 32 + 192 = 192 + c.toNat / 64 := by omega
  have three (range : c.toNat < 0x10000) : c.toNat / 4096 % 16 + 224 = 224 + c.toNat / 4096 := by
    omega
  have four : c.toNat / 262144 % 8 + 240 = 240 + c.toNat / 262144 := by omega
  rw [isDigit_iff]
  simp only [String.utf8EncodeChar, leadByte, number, ← Nat.lt_succ_iff]
  split_ifs with _ range range
  · exact ⟨[], rfl, fun _ => rfl⟩
  · rw [two range]
    exact ⟨_, rfl, fun digit => by omega⟩
  · rw [three range]
    exact ⟨_, rfl, fun digit => by omega⟩
  · rw [four]
    exact ⟨_, rfl, fun digit => by omega⟩

/-- Only a digit begins with the byte of a digit: characters of several bytes begin above all
digits. -/
theorem isDigitByte_leadByte : IsDigitByte (leadByte c) ↔ IsDigit c := by
  have bound := toNat_le_max c
  have toNat {k : Nat} (fits : k < 256) : (UInt8.ofNat k).toNat = k := UInt8.toNat_ofNat_of_lt' fits
  rw [isDigitByte_iff, isDigit_iff]
  simp only [leadByte]
  split_ifs
  · rw [toNat (by omega)]
  -- Several bytes: the first is at least 192, and the character at least 128.
  all_goals
    rw [toNat (by omega)]
    omega

/-- Digits `cs` take a byte each, the `leadByte`. -/
theorem flatMap_utf8EncodeChar (digits : ∀ c ∈ cs, IsDigit c) :
    cs.flatMap String.utf8EncodeChar = cs.map leadByte := by
  rw [List.map_eq_flatMap]
  refine List.flatMap_congr fun c member => ?_
  obtain ⟨rest, written, single⟩ := utf8EncodeChar_eq_cons c
  rw [written, single (digits c member)]

theorem allDigits_map_leadByte (digits : ∀ c ∈ cs, IsDigit c) : AllDigits (cs.map leadByte) := by
  intro b member
  obtain ⟨c, inside, rfl⟩ := List.mem_map.1 member
  exact isDigitByte_leadByte.2 (digits c inside)

theorem ofText_of_isDigit (digits : ∀ c ∈ text.toList, IsDigit c) :
    Bytes.ofText text = text.toList.map leadByte := by
  rw [Bytes.ofText_eq_flatMap, flatMap_utf8EncodeChar digits]

theorem allDigits_ofText_iff : AllDigits (Bytes.ofText text) ↔ ∀ c ∈ text.toList, IsDigit c := by
  constructor
  · intro all c member
    obtain ⟨rest, written, _⟩ := utf8EncodeChar_eq_cons c
    have inside : leadByte c ∈ Bytes.ofText text := by
      rw [Bytes.ofText_eq_flatMap, List.mem_flatMap]
      exact ⟨c, member, written ▸ List.mem_cons_self⟩
    exact isDigitByte_leadByte.1 (all _ inside)
  · intro digits
    rw [ofText_of_isDigit digits]
    exact allDigits_map_leadByte digits

/-! ### The first byte that is no digit -/

theorem FirstBad.append {front rest : Bytes} (digits : AllDigits front) (bad : ¬ IsDigitByte b) :
    FirstBad (front ++ b :: rest) b front.length where
  stands := by simp
  bad := bad
  before := by rwa [List.take_left]

theorem FirstBad.cons (digit : IsDigitByte b') (first : FirstBad bs b i) :
    FirstBad (b' :: bs) b (i + 1) where
  stands := first.stands
  bad := first.bad
  before := by
    rw [List.take_succ_cons]
    exact List.forall_mem_cons.2 ⟨digit, first.before⟩

theorem FirstBad.le (first : FirstBad bs b i) (other : FirstBad bs b' i') : i ≤ i' := by
  by_contra later
  have standsBefore : (bs.take i)[i']? = some b' :=
    (List.getElem?_take_of_lt (Nat.lt_of_not_le later)).trans other.stands
  exact other.bad (first.before b' (List.mem_of_getElem? standsBefore))

theorem FirstBad.unique (first : FirstBad bs b i) (other : FirstBad bs b' i') :
    b = b' ∧ i = i' := by
  obtain rfl : i = i' := Nat.le_antisymm (first.le other) (other.le first)
  exact ⟨Option.some.inj (first.stands.symm.trans other.stands), rfl⟩

theorem FirstBad.not_allDigits (first : FirstBad bs b i) : ¬ AllDigits bs :=
  fun all => first.bad (all b (List.mem_of_getElem? first.stands))

theorem allDigits_or_firstBad (bs : Bytes) : AllDigits bs ∨ ∃ b i, FirstBad bs b i := by
  induction bs with
  | nil => exact .inl nofun
  | cons b bs ih =>
    by_cases digit : IsDigitByte b
    · rcases ih with all | ⟨bad, i, first⟩
      · exact .inl (List.forall_mem_cons.2 ⟨digit, all⟩)
      · exact .inr ⟨bad, i + 1, first.cons digit⟩
    · have first : FirstBad ([] ++ b :: bs) b 0 := .append nofun digit
      exact .inr ⟨b, 0, first⟩

/-- The character `bad` behind the leading digits of `text` begins with its `FirstBad` byte. -/
theorem firstBad_ofText {bad : Char} {rest : List Char}
    (behind : text.toList.dropWhile (fun c => decide (IsDigit c)) = bad :: rest) :
    FirstBad (Bytes.ofText text) (leadByte bad)
      (text.toList.takeWhile (fun c => decide (IsDigit c))).length := by
  set front := text.toList.takeWhile (fun c => decide (IsDigit c)) with front_eq
  have parts : text.toList = front ++ bad :: rest := by
    rw [front_eq, ← behind, List.takeWhile_append_dropWhile]
  have digits : ∀ c ∈ front, IsDigit c := by
    intro c member
    exact of_decide_eq_true (List.mem_takeWhile_imp (p := fun c => decide (IsDigit c)) member)
  have noDigit : ¬ IsDigit bad := by
    have first := List.head?_dropWhile_not (fun c => decide (IsDigit c)) text.toList
    rw [behind] at first
    exact of_decide_eq_false first
  -- Of the bad character only the first byte is looked at.
  obtain ⟨continued, written, _⟩ := utf8EncodeChar_eq_cons bad
  have bytes : Bytes.ofText text = front.map leadByte ++ leadByte bad ::
      (continued ++ rest.flatMap String.utf8EncodeChar) := by
    rw [Bytes.ofText_eq_flatMap, parts, List.flatMap_append, List.flatMap_cons, written,
      flatMap_utf8EncodeChar digits, List.cons_append]
  rw [bytes, ← List.length_map leadByte]
  exact .append (allDigits_map_leadByte digits) (mt isDigitByte_leadByte.1 noDigit)

/-! ### Reading -/

theorem decode_of_even (even : (Bytes.ofText text).length % 2 = 0) :
    decode text = match text.toList.dropWhile (fun c => decide (IsDigit c)) with
      | bad :: _ => .error (.badByte (leadByte bad)
          (text.toList.takeWhile (fun c => decide (IsDigit c))).length)
      | [] => .ok (pack (text.toList.filterMap value?)) :=
  if_neg (not_not.2 even)

theorem decode_of_firstBad (even : (Bytes.ofText text).length % 2 = 0)
    (first : FirstBad (Bytes.ofText text) b i) : decode text = .error (.badByte b i) := by
  rw [decode_of_even even]
  cases behind : text.toList.dropWhile (fun c => decide (IsDigit c)) with
  | nil =>
    have digits := List.dropWhile_eq_nil_iff.1 behind
    have all := allDigits_ofText_iff.2 fun c member => of_decide_eq_true (digits c member)
    exact absurd all first.not_allDigits
  | cons bad rest =>
    obtain ⟨rfl, rfl⟩ := first.unique (firstBad_ofText behind)
    rfl

/-- An even number of halves `ns` are those of the bytes that `pack` joins them to. -/
theorem flatMap_nibbles_pack {ns : List Nat} (even : ns.length % 2 = 0)
    (small : ∀ n ∈ ns, n < 16) : (pack ns).flatMap nibbles = ns := by
  induction ns using pack.induct with
  | case1 high low rest ih =>
    simp only [List.length_cons, List.mem_cons, forall_eq_or_imp] at even small
    obtain ⟨highSmall, lowSmall, restSmall⟩ := small
    have byte : (UInt8.ofNat (16 * high + low)).toNat = 16 * high + low :=
      UInt8.toNat_ofNat_of_lt' (by simp only [UInt8.size]; omega)
    have first : (16 * high + low) / 16 = high := by omega
    have second : (16 * high + low) % 16 = low := by omega
    rw [pack, List.flatMap_cons, nibbles, byte, first, second, ih (by omega) restSmall]
    rfl
  | case2 ns noPair =>
    -- Without a pair in front there is one half at most, and one would be odd.
    cases ns with
    | nil => rfl
    | cons n ns =>
      cases ns with
      | nil => exact absurd even Nat.one_ne_zero
      | cons low rest => exact absurd rfl (noPair n low rest)

/-- A `text` of digits, even in number, is read as the bytes whose text it is in lower case. -/
theorem decode_of_allDigits (even : (Bytes.ofText text).length % 2 = 0)
    (all : AllDigits (Bytes.ofText text)) :
    ∃ bs, decode text = .ok bs ∧ encode bs = text.toLower := by
  have digits := allDigits_ofText_iff.1 all
  have nothing : text.toList.dropWhile (fun c => decide (IsDigit c)) = [] :=
    List.dropWhile_eq_nil_iff.2 fun c member => decide_eq_true (digits c member)
  have lower := map_digit_filterMap_value? digits
  -- A text of digits has one byte for each, so it has an even number of digits.
  have count : (Bytes.ofText text).length = (text.toList.filterMap value?).length := by
    rw [ofText_of_isDigit digits, List.length_map]
    simpa using (congrArg List.length lower).symm
  refine ⟨pack (text.toList.filterMap value?), ?_, ?_⟩
  · rw [decode_of_even even, nothing]
  · rw [count] at even
    calc encode (pack (text.toList.filterMap value?))
        = String.ofList ((text.toList.filterMap value?).map digit) := by
          rw [encode, flatMap_nibbles_pack even fun _ => lt_of_mem_filterMap_value?]
      _ = String.ofList text.toLower.toList := by rw [lower, toList_toLower]
      _ = text.toLower := String.ofList_toList

/-- **What `decode` makes of a text**: an odd number of bytes is refused first, then the `FirstBad`
byte, and all else is read, as the bytes whose text it is in lower case. -/
theorem decode_cases (text : String) :
    (Bytes.ofText text).length % 2 = 1 ∧ decode text = .error .oddLength ∨
    (Bytes.ofText text).length % 2 = 0 ∧
      ((∃ b i, FirstBad (Bytes.ofText text) b i ∧ decode text = .error (.badByte b i)) ∨
      AllDigits (Bytes.ofText text) ∧ ∃ bs, decode text = .ok bs ∧ encode bs = text.toLower) := by
  rcases Nat.mod_two_eq_zero_or_one (Bytes.ofText text).length with even | odd
  · refine .inr ⟨even, ?_⟩
    rcases allDigits_or_firstBad (Bytes.ofText text) with all | ⟨b, i, first⟩
    · exact .inr ⟨all, decode_of_allDigits even all⟩
    · exact .inl ⟨b, i, first, decode_of_firstBad even first⟩
  · exact .inl ⟨odd, if_pos (ne_of_eq_of_ne odd Nat.one_ne_zero)⟩

theorem decode_eq_oddLength_iff :
    decode text = .error .oddLength ↔ (Bytes.ofText text).length % 2 = 1 := by
  rcases decode_cases text with ⟨odd, result⟩ | ⟨even, ⟨b, i, _, result⟩ | ⟨_, bs, result, _⟩⟩
  · simp [odd, result]
  · simp [even, result]
  · simp [even, result]

theorem decode_eq_badByte_iff : decode text = .error (.badByte b i) ↔
    (Bytes.ofText text).length % 2 = 0 ∧ FirstBad (Bytes.ofText text) b i := by
  refine ⟨fun refused => ?_, fun ⟨even, first⟩ => decode_of_firstBad even first⟩
  rcases decode_cases text with ⟨odd, result⟩ | ⟨even, ⟨b', i', first, result⟩ | ⟨_, _, result, _⟩⟩
  · exact nomatch result.symm.trans refused
  · obtain ⟨rfl, rfl⟩ : b' = b ∧ i' = i := by simpa using result.symm.trans refused
    exact ⟨even, first⟩
  · exact nomatch result.symm.trans refused

/-- A character of two bytes is refused by the first of them. -/
example : decode "aé0" = .error (.badByte 0xC3 1) ∧ FirstBad (Bytes.ofText "aé0") 0xC3 1 :=
  ⟨by decide, by decide, by decide, by decide⟩

/-- A `text` is refused exactly when its bytes are odd in number or not `AllDigits`. -/
theorem exists_decode_eq_error_iff : (∃ cause, decode text = .error cause) ↔
    (Bytes.ofText text).length % 2 = 1 ∨ ¬ AllDigits (Bytes.ofText text) := by
  rcases decode_cases text with ⟨odd, result⟩ | ⟨even, ⟨_, _, first, result⟩ | ⟨all, _, result, _⟩⟩
  · exact iff_of_true ⟨_, result⟩ (.inl odd)
  · exact iff_of_true ⟨_, result⟩ (.inr first.not_allDigits)
  · simp [result, even, all]

/-- A `text` that is `encode bs` in lower case has two digits for each byte, and nothing else. -/
theorem allDigits_of_encode_eq_toLower (same : encode bs = text.toLower) :
    AllDigits (Bytes.ofText text) ∧ (Bytes.ofText text).length = 2 * bs.length := by
  have lower : (encode bs).toList = text.toList.map Char.toLower := by
    rw [same, toList_toLower]
  have digits : ∀ c ∈ text.toList, IsDigit c := by
    intro c member
    have written : c.toLower ∈ (encode bs).toList := lower ▸ List.mem_map_of_mem member
    exact isDigit_toLower.1 (isDigit_of_mem_text written)
  refine ⟨allDigits_ofText_iff.2 digits, ?_⟩
  calc (Bytes.ofText text).length = (encode bs).toList.length := by
        rw [ofText_of_isDigit digits, lower, List.length_map, List.length_map]
    _ = 2 * bs.length := by rw [String.length_toList, length_encode]

/-- **A text is read as the bytes whose text it is in lower case**: `decode text` is `bs` exactly
when `encode bs` is `text.toLower`. -/
theorem decode_eq_ok_iff : decode text = .ok bs ↔ encode bs = text.toLower := by
  constructor
  · intro read
    rcases decode_cases text with ⟨_, result⟩ | ⟨_, ⟨_, _, _, result⟩ | ⟨_, bs', result, lower⟩⟩
    · exact nomatch result.symm.trans read
    · exact nomatch result.symm.trans read
    · rwa [Except.ok.inj (result.symm.trans read)] at lower
  · intro same
    obtain ⟨all, count⟩ := allDigits_of_encode_eq_toLower same
    obtain ⟨bs', read, lower⟩ := decode_of_allDigits (by rw [count, Nat.mul_mod_right]) all
    rw [read, encode_injective (lower.trans same.symm)]

theorem toLower_encode (bs : Bytes) : (encode bs).toLower = encode bs := by
  have written {c : Char} (member : c ∈ (encode bs).toList) : c.toLower = id c := by
    rw [encode, String.toList_ofList] at member
    obtain ⟨n, inside, rfl⟩ := List.mem_map.1 member
    obtain ⟨b, _, half⟩ := List.mem_flatMap.1 inside
    exact (value?_eq_some_iff.1 (value?_digit (lt_of_mem_nibbles half))).2.symm
  rw [← String.toList_inj, toList_toLower, List.map_congr_left fun _ member => written member,
    List.map_id]

theorem decode_encode (bs : Bytes) : decode (encode bs) = .ok bs :=
  decode_eq_ok_iff.2 (toLower_encode bs).symm

/-- A `text` stands for `n` bytes exactly when it has twice as many bytes, all of digits. -/
theorem exists_decode_eq_ok_iff : (∃ bs, decode text = .ok bs ∧ bs.length = n) ↔
    (Bytes.ofText text).length = 2 * n ∧ AllDigits (Bytes.ofText text) := by
  constructor
  · rintro ⟨bs, read, rfl⟩
    exact (allDigits_of_encode_eq_toLower (decode_eq_ok_iff.1 read)).symm
  · rintro ⟨length, all⟩
    obtain ⟨bs, read, lower⟩ := decode_of_allDigits (by rw [length, Nat.mul_mod_right]) all
    have count := (allDigits_of_encode_eq_toLower lower).2
    exact ⟨bs, read, by omega⟩

/-! ### Order -/

/-- The digits of `n` and `m` compare as `n` and `m` do. -/
theorem compare_leadByte_digit {m : Nat} (small : n < 16) (small' : m < 16) :
    compare (leadByte (digit n)) (leadByte (digit m)) = compare n m := by
  have all : ∀ k l : Fin 16,
      compare (leadByte (digit k)) (leadByte (digit l)) = compare k.val l.val := by decide
  exact all ⟨n, small⟩ ⟨m, small'⟩

/-- Bytes `b` and `b'` compare by their high halves first, then by their low ones. -/
theorem compare_halves (b b' : UInt8) :
    (compare (b.toNat / 16) (b'.toNat / 16)).then (compare (b.toNat % 16) (b'.toNat % 16)) =
      compare b b' := by
  rw [UInt8.compare_eq_toNat_compare_toNat]
  rcases Nat.lt_trichotomy (b.toNat / 16) (b'.toNat / 16) with less | equal | more
  · have first : b.toNat < b'.toNat := by omega
    rw [Nat.compare_eq_lt.2 less, Nat.compare_eq_lt.2 first]
    rfl
  · have first : b.toNat % 16 < b'.toNat % 16 ↔ b.toNat < b'.toNat := by omega
    have second : b'.toNat % 16 < b.toNat % 16 ↔ b'.toNat < b.toNat := by omega
    rw [Nat.compare_eq_eq.2 equal, Ordering.eq_then, Nat.compare_eq_ite_lt, Nat.compare_eq_ite_lt]
    simp only [first, second]
  · have second : b'.toNat < b.toNat := by omega
    rw [Nat.compare_eq_gt.2 more, Nat.compare_eq_gt.2 second]
    rfl

theorem ofText_encode (bs : Bytes) :
    Bytes.ofText (encode bs) = (bs.flatMap nibbles).map (leadByte ∘ digit) := by
  rw [ofText_of_isDigit fun c => isDigit_of_mem_text, encode, String.toList_ofList, List.map_map]

/-- **Byte strings and their texts have one order**: `encode bs` and `encode bs'` compare, byte by
byte, as `bs` and `bs'` do. -/
theorem compareLex_ofText_encode (bs bs' : Bytes) :
    List.compareLex compare (Bytes.ofText (encode bs)) (Bytes.ofText (encode bs')) =
      List.compareLex compare bs bs' := by
  rw [ofText_encode, ofText_encode]
  induction bs generalizing bs' with
  | nil =>
    cases bs' with
    | nil => rfl
    | cons b' bs' => rfl
  | cons b bs ih =>
    cases bs' with
    | nil => rfl
    | cons b' bs' =>
      -- Both texts begin with two bytes, so that the rests are compared at the same time.
      have high := compare_leadByte_digit (lt_of_mem_nibbles (b := b) List.mem_cons_self)
        (lt_of_mem_nibbles (b := b') List.mem_cons_self)
      have low := compare_leadByte_digit (n := b.toNat % 16) (m := b'.toNat % 16)
        (Nat.mod_lt _ (by decide)) (Nat.mod_lt _ (by decide))
      simp only [List.flatMap_cons, nibbles, List.cons_append, List.nil_append, List.map_cons,
        Function.comp_apply, List.compareLex_cons_cons, high, low, ih, ← Ordering.then_assoc,
        compare_halves]

end StateChannel.Hex
