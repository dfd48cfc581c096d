import StateChannel.Proofs.Bytes.Codecs
import StateChannel.Signing.Address

/-!
# Personal messages are framed unambiguously

The length of a text stands directly before the text, so that digits of the one could be taken for
digits of the other. They are not: a longer text has no fewer digits in its length, so both together
tell how long the text is.

## Main results

* `length_toDigits_le`: a greater number has no fewer digits
* `PersonalMessage.length_framed`: how long a framed text is
* `PersonalMessage.framing_unambiguous`: different texts are framed differently
-/

namespace StateChannel

/-- A greater number has no fewer digits. -/
theorem length_toDigits_le {m n : Nat} (le : m ≤ n) :
    (Nat.toDigits 10 m).length ≤ (Nat.toDigits 10 n).length := by
  have base : 1 < 10 := by decide
  have some : 0 < (Nat.toDigits 10 n).length := Nat.length_toDigits_pos
  have bound : n < 10 ^ (Nat.toDigits 10 n).length :=
    (Nat.length_toDigits_le_iff base some).1 (Nat.le_refl _)
  exact (Nat.length_toDigits_le_iff base some).2 (Nat.lt_of_le_of_lt le bound)

namespace PersonalMessage

/-- The bytes of the decimal digits of `n`, one for each. -/
theorem ofText_toDigits (n : Nat) :
    Bytes.ofText (String.ofList (Nat.toDigits 10 n)) =
      (Nat.toDigits 10 n).map fun c => UInt8.ofNat c.toNat :=
  Bytes.ofText_digits fun _ member => Nat.isDigit_of_mem_toDigits (by decide) (by decide) member

/-- `framed text` has the length of the head, of the digits, and of `text`. -/
theorem length_framed (text : String) :
    (framed text).length =
      head.length + (Nat.toDigits 10 text.utf8ByteSize).length + text.utf8ByteSize := by
  have size : (Bytes.ofText text).length = text.utf8ByteSize := rfl
  rw [framed, List.length_append, List.length_append, ofText_toDigits, List.length_map, size]

/-- Texts with the same `framed` bytes are equally long. -/
theorem utf8ByteSize_eq_of_framed_eq {text other : String} (same : framed text = framed other) :
    text.utf8ByteSize = other.utf8ByteSize := by
  have lengths := congrArg List.length same
  rw [length_framed, length_framed] at lengths
  -- If one were longer, it would have at least as many digits too, and its frame would be longer.
  rcases Nat.lt_trichotomy text.utf8ByteSize other.utf8ByteSize with less | equal | more
  · have digits := length_toDigits_le (Nat.le_of_lt less)
    omega
  · exact equal
  · have digits := length_toDigits_le (Nat.le_of_lt more)
    omega

theorem framed_injective : Function.Injective framed := by
  intro text other same
  have sizes := utf8ByteSize_eq_of_framed_eq same
  rw [framed, framed, sizes] at same
  exact Bytes.ofText_injective (List.append_cancel_left same)

/-- **Framing is unambiguous.** The hash of `text` is the Keccak digest of `framed text`, which is
the head, the digits of the length of `text` in bytes, and `text`. For different texts these byte
strings differ, so `text` and `other` have one hash only if `Keccak.digest` takes two different byte
strings to the same digest. -/
theorem framing_unambiguous (text other : String) :
    hash text = Keccak.digest (framed text) ∧
    framed text = Bytes.ofText "\x19Ethereum Signed Message:\n" ++
      Bytes.ofText (toString text.utf8ByteSize) ++ Bytes.ofText text ∧
    (framed text = framed other ↔ text = other) ∧
    (text ≠ other → hash text = hash other →
      ∃ bs bs', bs ≠ bs' ∧ bs = framed text ∧ bs' = framed other ∧
        Keccak.digest bs = Keccak.digest bs') := by
  refine ⟨rfl, ?_, framed_injective.eq_iff, fun differ same => ?_⟩
  · rw [framed, Nat.toString_eq_ofList_toDigits]
    rfl
  · exact ⟨_, _, framed_injective.ne differ, rfl, rfl, same⟩

/-- One frame may still begin with another: nothing stands between the length and the text. -/
example : framed "1" <+: framed "11111111111" := by decide

end PersonalMessage

end StateChannel
