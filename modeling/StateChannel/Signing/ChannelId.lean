import StateChannel.Signing.Error

/-!
# Channel ids

A channel is named by 32 bytes, written as 64 hexadecimal digits.

## Main definitions

* `ChannelId`: 32 bytes
* `ChannelId.ofBytes`, `ChannelId.ofHex`: checked construction
* `ChannelId.toHex`: the written form
* `ChannelId.order`: the lexicographic order of the bytes

## Main results

* `ChannelId.ofBytes_bytes`: the bytes of an id give the id back
* `ChannelId.length_toHex`: the written form has 64 digits
-/

namespace StateChannel

/-- A channel id: 32 bytes. -/
structure ChannelId where
  bytes : Bytes
  length_eq : bytes.length = 32
  deriving DecidableEq, Repr

namespace ChannelId

/-- The id with the given `bytes`, when there are 32 of them. -/
def ofBytes (bytes : Bytes) : Except SigningError ChannelId :=
  if h : bytes.length = 32 then .ok ⟨bytes, h⟩
  else .error (.invalidArgument (.channelIdLength bytes.length))

/-- The id with the digits of `text`. Bad digits are reported before a wrong length. -/
def ofHex (text : String) : Except SigningError ChannelId :=
  match Hex.decode text with
  | .ok bytes => ofBytes bytes
  | .error cause => .error (.invalidHex cause)

/-- The written form, in lower case. -/
def toHex (id : ChannelId) : String := Hex.encode id.bytes

/-- The form for diagnostics. -/
def describe (id : ChannelId) : String := "ChannelId(" ++ id.toHex ++ ")"

/-- The order of ids: that of their first different byte. -/
def order (a b : ChannelId) : Ordering := List.compareLex compare a.bytes b.bytes

theorem ofBytes_bytes (id : ChannelId) : ofBytes id.bytes = .ok id := by
  simp [ofBytes, id.length_eq]

theorem length_toHex (id : ChannelId) : id.toHex.length = 64 := by
  rw [toHex, Hex.length_encode, id.length_eq]

end ChannelId

end StateChannel
