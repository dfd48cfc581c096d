import StateChannel.Proofs.Bytes.Codecs

/-!
# The only text of a byte string

Strict reading of base64 text accepts nothing but what has been written, so a byte string has one
text. Where padding may be left out, a byte string has the texts that padding completes to this one.

## Main definitions

* `Base64.complete`: a text with the padding of its last group

## Main results

* `Base64.decode?_eq_some_iff`: strict reading accepts what has been written
* `Base64.decodeUnpadded?_eq_some_iff`: what is read where padding may be left out
* `Base64.complete_inj`: two texts stand for the same bytes if they differ in padding alone
-/

namespace StateChannel.Base64

variable {p q r s : Char} {bs : Bytes}

/-- A character `c` that has the value `n` is the digit of `n`. -/
theorem eq_digit_of_value? {c : Char} {n : Nat} (value : value? c = some n) :
    n < 64 ∧ c = digit n := by
  have ofNat {k : Nat} (same : c.toNat = k) : c = Char.ofNat k := same ▸ (Char.ofNat_toNat c).symm
  -- One range of characters after the other, as their digits are assigned.
  unfold value? at value
  split at value
  · next upper =>
    have bounds : 65 ≤ c.toNat ∧ c.toNat ≤ 90 := upper
    obtain rfl := Option.some.inj value
    have range : c.toNat - 65 < 26 := by omega
    exact ⟨by omega, by rw [digit, if_pos range]; exact ofNat (by omega)⟩
  · split at value
    · next lower =>
      have bounds : 97 ≤ c.toNat ∧ c.toNat ≤ 122 := lower
      obtain rfl := Option.some.inj value
      have above : ¬ c.toNat - 71 < 26 := by omega
      have range : c.toNat - 71 < 52 := by omega
      exact ⟨by omega, by rw [digit, if_neg above, if_pos range]; exact ofNat (by omega)⟩
    · split at value
      · next decimal =>
        have bounds : 48 ≤ c.toNat ∧ c.toNat ≤ 57 := decimal
        obtain rfl := Option.some.inj value
        have above : ¬ c.toNat + 4 < 26 ∧ ¬ c.toNat + 4 < 52 := by omega
        have range : c.toNat + 4 < 62 := by omega
        refine ⟨by omega, ?_⟩
        rw [digit, if_neg above.1, if_neg above.2, if_pos range]
        exact ofNat (by omega)
      · split at value
        · next plus =>
          obtain rfl := Option.some.inj value
          exact ⟨by decide, plus⟩
        · split at value
          · next slash =>
            obtain rfl := Option.some.inj value
            exact ⟨by decide, slash⟩
          · exact nomatch value

/-! The bytes that digits are put together to, as numbers. -/

theorem toNat_first {w x : Nat} (wSmall : w < 64) (xSmall : x < 64) :
    (UInt8.ofNat (w * 4 + x / 16)).toNat = w * 4 + x / 16 :=
  UInt8.toNat_ofNat_of_lt' (by simp only [UInt8.size]; omega)

theorem toNat_second {x y : Nat} (ySmall : y < 64) :
    (UInt8.ofNat (x % 16 * 16 + y / 4)).toNat = x % 16 * 16 + y / 4 :=
  UInt8.toNat_ofNat_of_lt' (by simp only [UInt8.size]; omega)

theorem toNat_third {y z : Nat} (zSmall : z < 64) :
    (UInt8.ofNat (y % 4 * 64 + z)).toNat = y % 4 * 64 + z :=
  UInt8.toNat_ofNat_of_lt' (by simp only [UInt8.size]; omega)

/-! Of each group that is read, the bytes give the digits back. -/

theorem eq_encodeChars_of_decodeOne (read : decodeOne p q = some bs) :
    [p, q, '=', '='] = encodeChars bs := by
  simp only [decodeOne, Option.bind_eq_bind, Option.bind_eq_some_iff] at read
  obtain ⟨w, pValue, x, qValue, read⟩ := read
  obtain ⟨wSmall, rfl⟩ := eq_digit_of_value? pValue
  obtain ⟨xSmall, rfl⟩ := eq_digit_of_value? qValue
  split at read
  · next unused =>
    obtain rfl := Option.some.inj read
    have high : (w * 4 + x / 16) / 4 = w := by omega
    have low : (w * 4 + x / 16) % 4 * 16 = x := by omega
    rw [encodeChars, encodeOne, toNat_first wSmall xSmall, high, low]
  · cases read

theorem eq_encodeChars_of_decodeTwo (read : decodeTwo p q r = some bs) :
    [p, q, r, '='] = encodeChars bs := by
  simp only [decodeTwo, Option.bind_eq_bind, Option.bind_eq_some_iff] at read
  obtain ⟨w, pValue, x, qValue, y, rValue, read⟩ := read
  obtain ⟨wSmall, rfl⟩ := eq_digit_of_value? pValue
  obtain ⟨xSmall, rfl⟩ := eq_digit_of_value? qValue
  obtain ⟨ySmall, rfl⟩ := eq_digit_of_value? rValue
  split at read
  · next unused =>
    obtain rfl := Option.some.inj read
    have high : (w * 4 + x / 16) / 4 = w := by omega
    have middle : (w * 4 + x / 16) % 4 * 16 + (x % 16 * 16 + y / 4) / 16 = x := by omega
    have low : (x % 16 * 16 + y / 4) % 16 * 4 = y := by omega
    rw [encodeChars, encodeTwo, toNat_first wSmall xSmall, toNat_second ySmall, high, middle, low]
  · cases read

theorem eq_encodeThree_of_decodeThree (read : decodeThree p q r s = some bs) :
    ∃ a b c, bs = [a, b, c] ∧ [p, q, r, s] = encodeThree a b c := by
  simp only [decodeThree, Option.bind_eq_bind, Option.bind_eq_some_iff] at read
  obtain ⟨w, pValue, x, qValue, y, rValue, z, sValue, read⟩ := read
  obtain ⟨wSmall, rfl⟩ := eq_digit_of_value? pValue
  obtain ⟨xSmall, rfl⟩ := eq_digit_of_value? qValue
  obtain ⟨ySmall, rfl⟩ := eq_digit_of_value? rValue
  obtain ⟨zSmall, rfl⟩ := eq_digit_of_value? sValue
  obtain rfl := Option.some.inj read
  refine ⟨_, _, _, rfl, ?_⟩
  have first : (w * 4 + x / 16) / 4 = w := by omega
  have second : (w * 4 + x / 16) % 4 * 16 + (x % 16 * 16 + y / 4) / 16 = x := by omega
  have third : (x % 16 * 16 + y / 4) % 16 * 4 + (y % 4 * 64 + z) / 64 = y := by omega
  have fourth : (y % 4 * 64 + z) % 64 = z := by omega
  rw [encodeThree, toNat_first wSmall xSmall, toNat_second ySmall, toNat_third zSmall, first,
    second, third, fourth]

theorem eq_encodeChars_of_decodeLast (read : decodeLast p q r s = some bs) :
    [p, q, r, s] = encodeChars bs := by
  unfold decodeLast at read
  split at read
  · next padded =>
    subst padded
    split at read
    · next twice =>
      subst twice
      exact eq_encodeChars_of_decodeOne read
    · exact eq_encodeChars_of_decodeTwo read
  · obtain ⟨a, b, c, rfl, digits⟩ := eq_encodeThree_of_decodeThree read
    rw [encodeChars, encodeChars, List.append_nil]
    exact digits

theorem decodeChars_eq_some_iff {cs : List Char} :
    decodeChars cs = some bs ↔ cs = encodeChars bs := by
  refine ⟨fun read => ?_, fun same => same ▸ decodeChars_encodeChars bs⟩
  -- On the groups of four, of which the last may be padded.
  induction cs using decodeChars.induct generalizing bs with
  | case1 =>
    obtain rfl := Option.some.inj read
    rfl
  | case2 p q r s => exact eq_encodeChars_of_decodeLast read
  | case3 p q r s rest notLast ih =>
    rw [decodeChars.eq_3 _ _ _ _ _ notLast] at read
    simp only [Option.bind_eq_bind, Option.bind_eq_some_iff] at read
    obtain ⟨three, group, others, later, read⟩ := read
    obtain rfl := Option.some.inj read
    obtain ⟨a, b, c, rfl, digits⟩ := eq_encodeThree_of_decodeThree group
    calc p :: q :: r :: s :: rest = [p, q, r, s] ++ rest := rfl
      _ = encodeThree a b c ++ encodeChars others := by rw [digits, ih later]
      _ = encodeChars ([a, b, c] ++ others) := rfl
  | case4 cs notNil notOne notMore =>
    rw [decodeChars.eq_4 cs notNil notOne notMore] at read
    cases read

/-- **Strict reading accepts what has been written**, and nothing else: `decode? text` is `bs`
exactly when `text` is `encode bs`. -/
theorem decode?_eq_some_iff {text : String} : decode? text = some bs ↔ text = encode bs := by
  rw [decode?, decodeChars_eq_some_iff, encode, ← String.toList_inj, String.toList_ofList]

theorem length_encodeChars_mod (bs : Bytes) : (encodeChars bs).length % 4 = 0 := by
  induction bs using encodeChars.induct with
  | case1 => rfl
  | case2 a => simp [encodeChars, encodeOne]
  | case3 a b => simp [encodeChars, encodeTwo]
  | case4 a b c rest ih => simp [encodeChars, encodeThree, Nat.add_mod, ih]

/-- The `text` with the padding of its last group. -/
def complete (text : String) : String := String.ofList (text.toList ++ padding text.toList)

/-- Where padding may be left out, `text` stands for `bs` exactly when `complete text` is `encode
bs`. -/
theorem decodeUnpadded?_eq_some_iff {text : String} :
    decodeUnpadded? text = some bs ↔ complete text = encode bs := by
  rw [decodeUnpadded?, decodeChars_eq_some_iff, complete, encode, String.ofList_inj]

theorem complete_encode (bs : Bytes) : complete (encode bs) = encode bs := by
  rw [complete, padding, encode, String.toList_ofList]
  have whole : (4 - (encodeChars bs).length % 4) % 4 = 0 := by
    rw [length_encodeChars_mod bs]
  rw [whole]
  simp

/-- Two texts that are read stand for the same bytes exactly when `complete` makes them the
same. -/
theorem complete_inj {text other : String} {bs bs' : Bytes}
    (read : decodeUnpadded? text = some bs) (read' : decodeUnpadded? other = some bs') :
    complete text = complete other ↔ bs = bs' := by
  rw [decodeUnpadded?_eq_some_iff.1 read, decodeUnpadded?_eq_some_iff.1 read']
  exact encode_injective.eq_iff

end StateChannel.Base64
