import StateChannel.Bytes.Base64
import StateChannel.Json.Decoder
import StateChannel.Signing.ChannelId

/-!
# Participants and signed data

What the participants of a channel exchange, with its written forms. Bytes are written in base64.

## Main definitions

* `Participant`, `Metadata`: who takes part in a channel, and in which epoch
* `SignedData`: a state with the signatures over it

## Main results

* `SignedData.unsigned_signatures`: nobody has signed at first
-/

namespace StateChannel

/-- A participant: its name, and the address that its oracle understands. -/
structure Participant where
  name : String
  address : String
  deriving DecidableEq, Repr

/-- The participants of a channel in order, and the token of the epoch. -/
structure Metadata where
  participants : List Participant
  reinit : Bytes
  deriving DecidableEq, Repr

/-- A state with signatures over it. The signatures stand in the order of the participants, but a
participant that did not sign leaves no gap. -/
structure SignedData where
  data : Bytes
  signatures : List Bytes
  deriving DecidableEq, Repr

/-- The bytes `bs` in base64. -/
def Base64.toJson (bs : Bytes) : Json := .string (encode bs)

/-- Reads bytes in base64; padding may be left out. The text `invalid base64` stands for whatever
the reader of base64 says, whose own words name the first byte that is bad and where it is. -/
def Base64.decoder : Decoder Bytes :=
  Decoder.parsed "a base64 encoded string" fun s =>
    match decodeUnpadded? s with
    | some bs => .ok bs
    | none => .error "invalid base64"

/-- The written form of a channel id. -/
def ChannelId.toJson (id : ChannelId) : Json := .string id.toHex

/-- Reads a channel id. -/
def ChannelId.decoder : Decoder ChannelId :=
  Decoder.parsed "a string" fun s => (ChannelId.ofHex s).mapError SigningError.message

namespace Participant

/-- The written form. -/
def toJson (p : Participant) : Json :=
  Json.ofMembers [("name", .string p.name), ("address", .string p.address)]

/-- Reads the written form. -/
def decoder : Decoder Participant :=
  Decoder.record "Participant"
    ((Fields.required "name" Decoder.string).and (Fields.required "address" Decoder.string)
      |>.map fun (name, address) => ⟨name, address⟩)

end Participant

namespace Metadata

/-- The written form. -/
def toJson (m : Metadata) : Json :=
  Json.ofMembers [("participants", .array (m.participants.map Participant.toJson)),
    ("reinit", Base64.toJson m.reinit)]

/-- Reads the written form. -/
def decoder : Decoder Metadata :=
  Decoder.record "ChannelMetadata"
    ((Fields.required "participants" (Decoder.list Participant.decoder)).and
      (Fields.required "reinit" Base64.decoder)
      |>.map fun (participants, reinit) => ⟨participants, reinit⟩)

end Metadata

namespace SignedData

/-- Data that nobody has signed. -/
def unsigned (data : Bytes) : SignedData := ⟨data, []⟩

/-- The written form. -/
def toJson (s : SignedData) : Json :=
  Json.ofMembers [("data", Base64.toJson s.data),
    ("signatures", .array (s.signatures.map Base64.toJson))]

/-- Reads the written form. -/
def decoder : Decoder SignedData :=
  Decoder.record "SignedData"
    ((Fields.required "data" Base64.decoder).and
      (Fields.required "signatures" (Decoder.list Base64.decoder))
      |>.map fun (data, signatures) => ⟨data, signatures⟩)

theorem unsigned_signatures (data : Bytes) : (unsigned data).signatures = [] := rfl

end SignedData

end StateChannel
