import StateChannel.Bytes.Base64
import StateChannel.Hash.Sha256
import StateChannel.Signing.ChannelId

/-!
# The message to sign

What a participant signs is a text of six lines that names the game, the channel, the epoch,
the topic and the digest of the state. The game and the topic are free text of one line, so
that every line says one thing.

## Main definitions

* `Signing.IsSingleLine`: free of line feeds, carriage returns and NUL
* `Signing.compose`: the message, after its arguments have been checked

## Main results

* `Signing.compose_eq_ok`: accepted arguments give the six lines
-/

namespace StateChannel.Signing

/-- A `text` that stays on one line. -/
def IsSingleLine (text : String) : Prop :=
  ∀ c ∈ text.toList, c ≠ '\n' ∧ c ≠ '\r' ∧ c ≠ '\x00'

instance (text : String) : Decidable (IsSingleLine text) :=
  List.decidableBAll (fun c => c ≠ '\n' ∧ c ≠ '\r' ∧ c ≠ '\x00') text.toList

/-- The digest of `data`, in hexadecimal digits. -/
def digestText (data : Bytes) : String := Hex.encode (Sha256.digest data)

/-- The six lines of a message. -/
def messageLines (gameId : String) (channel : ChannelId) (reinit : Bytes) (topic : String)
    (data : Bytes) : List String :=
  ["Game-Channel Signature",
    "Game ID: " ++ gameId,
    "Channel: " ++ channel.toHex,
    "Reinit: " ++ Base64.encode reinit,
    "Topic: " ++ topic,
    "Data Hash: " ++ digestText data]

/-- Lines joined by line feeds. -/
def joinLines (lines : List String) : String :=
  String.ofList (List.intercalate ['\n'] (lines.map String.toList))

/-- Refuses a `text` with more than one line, naming its `field`. -/
def checkLine (field : LineField) (text : String) : Except SigningError Unit :=
  if IsSingleLine text then .ok () else .error (.invalidArgument (.lineBreak field))

/-- The message for `data` under `topic`. The `channel` id is looked at first, then `gameId`, then
`topic`. -/
def compose (gameId : String) (channel reinit : Bytes) (topic : String) (data : Bytes) :
    Except SigningError String := do
  let channel ← ChannelId.ofBytes channel
  checkLine .gameId gameId
  checkLine .topic topic
  return joinLines (messageLines gameId channel reinit topic data)

theorem compose_eq_ok {gameId topic : String} (game : IsSingleLine gameId)
    (line : IsSingleLine topic) (channel : ChannelId) (reinit data : Bytes) :
    compose gameId channel.bytes reinit topic data =
      .ok (joinLines (messageLines gameId channel reinit topic data)) := by
  have first : checkLine .gameId gameId = .ok () := if_pos game
  have second : checkLine .topic topic = .ok () := if_pos line
  rw [compose, ChannelId.ofBytes_bytes, first, second]
  rfl

end StateChannel.Signing
