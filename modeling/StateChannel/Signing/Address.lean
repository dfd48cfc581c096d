import StateChannel.Curve.Ecdsa
import StateChannel.Hash.Keccak

/-!
# Addresses and personal messages

An address is the text `0x` and forty hexadecimal digits: the last twenty bytes of the digest
of a public point. A text is signed as a personal message: a fixed head, its length in bytes
and the text itself are digested together.

## Main definitions

* `Address.ofPoint`: the address of a public point
* `Address.IsValid`: the shape of addresses
* `PersonalMessage.framed`, `PersonalMessage.hash`: what is digested, and its digest
* `PersonalMessage.sign?`, `PersonalMessage.recover?`: signatures of 65 bytes

## Main results

* `Address.isValid_ofPoint`: addresses have their shape
-/

namespace StateChannel

namespace Address

/-- The address of a public point. -/
def ofPoint (point : Curve.Point) : String :=
  "0x" ++ Hex.encode ((Keccak.digest point.toBytes).drop 12)

/-- A digit of an address: hexadecimal, in lower case. -/
def IsDigit (c : Char) : Prop := ('0' ≤ c ∧ c ≤ '9') ∨ ('a' ≤ c ∧ c ≤ 'f')

instance (c : Char) : Decidable (IsDigit c) := by
  unfold IsDigit
  exact inferInstance

/-- The characters of an address. -/
def HasShape (cs : List Char) : Prop :=
  cs.take 2 = ['0', 'x'] ∧ (cs.drop 2).length = 40 ∧ ∀ c ∈ cs.drop 2, IsDigit c

instance (cs : List Char) : Decidable (HasShape cs) :=
  inferInstanceAs (Decidable (cs.take 2 = ['0', 'x'] ∧ (cs.drop 2).length = 40 ∧
    ∀ c ∈ cs.drop 2, IsDigit c))

/-- A text with the shape of an address. -/
def IsValid (text : String) : Prop := HasShape text.toList

instance (text : String) : Decidable (IsValid text) := inferInstanceAs (Decidable (HasShape _))

theorem isDigit_digit {n : Nat} (h : n < 16) : IsDigit (Hex.digit n) := by
  have all : ∀ k : Fin 16, IsDigit (Hex.digit k) := by decide
  exact all ⟨n, h⟩

theorem isDigit_of_mem_encode {bs : Bytes} {c : Char} (h : c ∈ (Hex.encode bs).toList) :
    IsDigit c := by
  simp only [Hex.encode, String.toList_ofList, List.mem_map, List.mem_flatMap] at h
  obtain ⟨n, ⟨b, _, hn⟩, rfl⟩ := h
  simp only [Hex.nibbles, List.mem_cons, List.not_mem_nil, or_false] at hn
  have := b.toNat_lt
  rcases hn with rfl | rfl <;> exact isDigit_digit (by omega)

theorem isValid_ofPoint (point : Curve.Point) : IsValid (ofPoint point) := by
  have length : ((Keccak.digest point.toBytes).drop 12).length = 20 := by
    rw [List.length_drop, Keccak.length_digest]
  have digits : (Hex.encode ((Keccak.digest point.toBytes).drop 12)).toList.length = 40 := by
    rw [String.length_toList, Hex.length_encode, length]
  have shape : (ofPoint point).toList =
      '0' :: 'x' :: (Hex.encode ((Keccak.digest point.toBytes).drop 12)).toList := by
    simp [ofPoint]
  rw [IsValid, shape]
  exact ⟨rfl, digits, fun c hc => isDigit_of_mem_encode hc⟩

end Address

/-- The address of a key. -/
def SecretKey.address (key : SecretKey) : String := Address.ofPoint key.publicPoint

namespace PersonalMessage

/-- The head of every personal message. -/
def head : Bytes := Bytes.ofText "\x19Ethereum Signed Message:\n"

/-- What is digested for `text`: the head, the length of `text` in bytes, and `text`. -/
def framed (text : String) : Bytes :=
  head ++ Bytes.ofText (String.ofList (Nat.toDigits 10 text.utf8ByteSize)) ++ Bytes.ofText text

/-- The digest that is signed for `text`. -/
def hash (text : String) : Bytes := Keccak.digest (framed text)

/-- The 65 bytes of a signature: `r`, `s`, and 27 or more, by the secret point. -/
def encode (signature : Signature) : Bytes :=
  Bytes.ofNat 32 signature.r ++ Bytes.ofNat 32 signature.s ++
    [27 + UInt8.ofNat signature.recoveryId]

/-- Reads the last byte of a signature: the parity of a secret point that is not beyond the order.
No other is read. -/
def parity? (v : UInt8) : Option Bool :=
  if v = 27 ∨ v = 0 then some false else if v = 28 ∨ v = 1 then some true else none

/-- Reads a signature of 65 bytes. -/
def decode? (bs : Bytes) : Option Signature :=
  match bs.drop 64 with
  | [v] => (parity? v).map fun odd =>
      ⟨Bytes.toNat (bs.take 32), Bytes.toNat ((bs.drop 32).take 32), odd, false⟩
  | _ => none

/-- Signs `text` with `key`. -/
def sign? (key : SecretKey) (text : String) : Option Bytes :=
  (key.sign? (hash text)).map encode

/-- The address that signed `text`; `none` for what is no valid signature. -/
def recover? (text : String) (signature : Bytes) : Option String := do
  let signature ← decode? signature
  let point ← signature.recover? (hash text)
  some (Address.ofPoint point)

end PersonalMessage

end StateChannel
