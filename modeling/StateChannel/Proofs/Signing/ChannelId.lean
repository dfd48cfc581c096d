import StateChannel.Proofs.Bytes.HexText
import StateChannel.Signing.ChannelId

/-!
# Channel ids and their names

An id is written as the digits of its bytes, and this text names the channel elsewhere. Digits of
either case are read, so an id is read from more texts than its name, but in lower case all of them
are its name. The order of ids is the order of their names.

## Main results

* `ChannelId.ofBytes_eq_ok_iff`, `ChannelId.ofBytes_eq_error_iff`: an id takes 32 bytes
* `ChannelId.ofHex_eq_ok_iff`: an id is read from the texts that are its name in lower case
* `ChannelId.exists_ofHex_eq_ok_iff`: which texts name an id
* `ChannelId.ofHex_eq_invalidHex_iff`, `ChannelId.ofHex_eq_channelIdLength_iff`: what is wrong with
  the others
* `ChannelId.names_correspond`: ids and their names correspond, and have one order
-/

namespace StateChannel.ChannelId

variable {text : String} {bs : Bytes} {id : ChannelId} {n : Nat}

/-! ### Bytes -/

theorem ofBytes_eq_ok_iff : ofBytes bs = .ok id ↔ id.bytes = bs := by
  constructor
  · intro accepted
    unfold ofBytes at accepted
    split at accepted
    · rw [← Except.ok.inj accepted]
    · cases accepted
  · rintro rfl
    exact ofBytes_bytes id

theorem ofBytes_eq_error_iff {e : SigningError} : ofBytes bs = .error e ↔
    bs.length ≠ 32 ∧ .invalidArgument (.channelIdLength bs.length) = e := by
  unfold ofBytes
  split
  · next length => simp [length]
  · next length => simp [length]

theorem bytes_injective : Function.Injective bytes := by
  rintro ⟨bytes, length⟩ ⟨other, length'⟩ rfl
  rfl

theorem toHex_injective : Function.Injective toHex :=
  Hex.encode_injective.comp bytes_injective

/-! ### Names -/

/-- `ofHex` reads `id` from `text` exactly when `text` in lower case is `id.toHex`. -/
theorem ofHex_eq_ok_iff : ofHex text = .ok id ↔ id.toHex = text.toLower := by
  rw [toHex, ← Hex.decode_eq_ok_iff, ofHex]
  cases Hex.decode text with
  | ok bs => rw [ofBytes_eq_ok_iff, Except.ok.injEq, eq_comm]
  | error cause => simp

theorem ofHex_toHex (id : ChannelId) : ofHex id.toHex = .ok id :=
  ofHex_eq_ok_iff.2 (Hex.toLower_encode id.bytes).symm

theorem exists_ofHex_eq_ok_iff : (∃ id, ofHex text = .ok id) ↔
    (Bytes.ofText text).length = 64 ∧ Hex.AllDigits (Bytes.ofText text) := by
  rw [← Hex.exists_decode_eq_ok_iff (n := 32)]
  simp only [ofHex_eq_ok_iff, toHex, ← Hex.decode_eq_ok_iff]
  constructor
  · rintro ⟨id, read⟩
    exact ⟨id.bytes, read, id.length_eq⟩
  · rintro ⟨bs, read, length⟩
    exact ⟨⟨bs, length⟩, read⟩

/-- `ofHex` refuses `text` for its digits exactly when `Hex.decode` does, with the same `cause`. -/
theorem ofHex_eq_invalidHex_iff {cause : HexError} :
    ofHex text = .error (.invalidHex cause) ↔ Hex.decode text = .error cause := by
  rw [ofHex]
  cases Hex.decode text with
  | ok bs => simp [ofBytes_eq_error_iff]
  | error cause => simp

/-- `ofHex` refuses `text` for its length `n` exactly when it has digits for `n` bytes and `n ≠
32`. -/
theorem ofHex_eq_channelIdLength_iff :
    ofHex text = .error (.invalidArgument (.channelIdLength n)) ↔
      (Bytes.ofText text).length = 2 * n ∧ n ≠ 32 ∧ Hex.AllDigits (Bytes.ofText text) := by
  rw [and_left_comm, ← Hex.exists_decode_eq_ok_iff, ofHex]
  cases Hex.decode text with
  | ok bs =>
    constructor
    · intro refused
      obtain ⟨length, same⟩ := ofBytes_eq_error_iff.1 refused
      obtain rfl : bs.length = n := by simpa using same
      exact ⟨length, bs, rfl, rfl⟩
    · rintro ⟨length, bs', same, rfl⟩
      obtain rfl := Except.ok.inj same
      exact ofBytes_eq_error_iff.2 ⟨length, rfl⟩
  | error cause => simp

/-- `order` compares ids as their names are compared, byte by byte. -/
theorem order_eq_compareLex (a b : ChannelId) :
    order a b = List.compareLex compare (Bytes.ofText a.toHex) (Bytes.ofText b.toHex) :=
  (Hex.compareLex_ofText_encode a.bytes b.bytes).symm

/-- **Ids and their names correspond.** A `text` names an `id` exactly when it has 64 digits of
either case, and `id.toHex` is then the text in lower case. Of other texts an odd number of bytes
is refused first, as `oddLength`, then the `FirstBad` byte, and then, as `channelIdLength n`,
digits for `n ≠ 32` bytes. Every `id` is read from `id.toHex`, different ids have different names,
and `order` is the order of the names. -/
theorem names_correspond :
    (∀ text : String,
      ((∃ id, ofHex text = .ok id) ↔
        (Bytes.ofText text).length = 64 ∧ Hex.AllDigits (Bytes.ofText text)) ∧
      (∀ id, ofHex text = .ok id ↔ id.toHex = text.toLower) ∧
      ((∃ cause, ofHex text = .error (.invalidHex cause)) ↔
        (Bytes.ofText text).length % 2 = 1 ∨ ¬ Hex.AllDigits (Bytes.ofText text)) ∧
      (ofHex text = .error (.invalidHex .oddLength) ↔ (Bytes.ofText text).length % 2 = 1) ∧
      (∀ byte position, ofHex text = .error (.invalidHex (.badByte byte position)) ↔
        (Bytes.ofText text).length % 2 = 0 ∧ Hex.FirstBad (Bytes.ofText text) byte position) ∧
      ∀ n, ofHex text = .error (.invalidArgument (.channelIdLength n)) ↔
        (Bytes.ofText text).length = 2 * n ∧ n ≠ 32 ∧ Hex.AllDigits (Bytes.ofText text)) ∧
    (∀ id : ChannelId, ofHex id.toHex = .ok id) ∧
    ∀ a b : ChannelId, (a.toHex = b.toHex ↔ a = b) ∧
      order a b = List.compareLex compare (Bytes.ofText a.toHex) (Bytes.ofText b.toHex) := by
  refine ⟨fun text => ⟨exists_ofHex_eq_ok_iff, fun id => ofHex_eq_ok_iff, ?_, ?_, ?_, ?_⟩,
    ofHex_toHex, fun a b => ⟨toHex_injective.eq_iff, order_eq_compareLex a b⟩⟩
  · -- What is wrong with the digits is told by the bytes of the text, and so is the length.
    simp only [ofHex_eq_invalidHex_iff]
    exact Hex.exists_decode_eq_error_iff
  · exact ofHex_eq_invalidHex_iff.trans Hex.decode_eq_oddLength_iff
  · exact fun byte position => ofHex_eq_invalidHex_iff.trans Hex.decode_eq_badByte_iff
  · exact fun n => ofHex_eq_channelIdLength_iff

end StateChannel.ChannelId
