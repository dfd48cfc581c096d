import StateChannel.Client.RelayClient

/-!
# Channels of payloads

A channel as one of its users sees it: payloads of bytes, and how far the user has read.
Payloads travel in base64; other messages on the channel are passed over.

## Main definitions

* `payload?`, `payloads`: the payloads among messages
* `PayloadChannel`: a channel with the number of messages read
* `PayloadChannel.skipAll`, `PayloadChannel.publish`, `PayloadChannel.fetch`: passing over what is
  there, sending, and waiting for more

## Main results

* `payloads_append`: messages are looked at one by one
-/

namespace StateChannel

/-- The payload of a message: only strings in base64 have one. -/
def payload? : Json → Option Bytes
  | .string s => Base64.decode? s
  | _ => none

/-- The payloads among `messages`, in order. -/
def payloads (messages : List Json) : List Bytes := messages.filterMap payload?

theorem payloads_append (messages others : List Json) :
    payloads (messages ++ others) = payloads messages ++ payloads others := by
  simp [payloads]

/-- A channel with the number of its messages that have been read. -/
structure PayloadChannel where
  channel : String
  seq : Nat
  deriving DecidableEq, Repr

namespace PayloadChannel

variable {σ : Type}

/-- The channel called `channel`, of which nothing has been read. -/
def unread (channel : String) : PayloadChannel := ⟨channel, 0⟩

/-- Passes over all messages that are there: the number read becomes what `getSeq` tells. -/
def skipAll (b : PayloadChannel) (client : RelayClient σ) : Talking σ PayloadChannel := do
  let seq ← client.getSeq b.channel
  return { b with seq }

/-- Sends `payload` to the channel, in base64. -/
def publish (b : PayloadChannel) (client : RelayClient σ) (payload : Bytes) :
    Talking σ Unit :=
  client.send b.channel (.string (Base64.encode payload))

/-- The channel after `slice` has been read, and the payloads of `slice`. -/
def take (b : PayloadChannel) (slice : Slice) : PayloadChannel × List Bytes :=
  ({ b with seq := slice.seq }, payloads slice.messages)

/-- Waits for payloads past those that `b` has read. -/
def fetch (b : PayloadChannel) (client : RelayClient σ) :
    Talking σ (PayloadChannel × List Bytes) := do
  let slice ← client.receive b.channel b.seq
  return b.take slice

end PayloadChannel

end StateChannel
