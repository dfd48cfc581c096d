import StateChannel.Client.Exchange
import StateChannel.Client.Response
import StateChannel.Relay.Slice

/-!
# The client of a relay

## Main definitions

* `ClientError`: what a client tells when a call fails
* `RelayClient`: a client of the relay at the other end of an exchange
* `RelayClient.send`, `RelayClient.getSeq`, `RelayClient.receive`: what it can ask

## Main results

* `RelayClient.sendError?_response`: only the status counts for the reply to a message
-/

namespace StateChannel

/-- Why a text is no response. -/
inductive ResponseFault
  /-- It does not have the form of a response. -/
  | undecodable
  /-- It holds neither a result nor an error. -/
  | noResult
  deriving DecidableEq, Repr

/-- The wording of a faulty response. -/
def ResponseFault.message : ResponseFault → String
  | .undecodable => "error decoding response body"
  | .noResult => "Missing result in response"

/-- Why a call failed. -/
inductive ClientError
  /-- The exchange failed, with a `status` if there was one. -/
  | http (status : Option Nat)
  /-- The relay answered with an error, of which `code` and `text` are kept. -/
  | rpc (code : Int32) (text : String)
  | parse (fault : ResponseFault)
  /-- The relay at `url` could not be reached. -/
  | connection (url : String)
  deriving DecidableEq, Repr

/-- The wording of a failure. -/
def ClientError.message : ClientError → String
  | .http _ => "HTTP request failed"
  | .rpc code text => "JSON-RPC error " ++ toString code.toInt ++ ": " ++ text
  | .parse fault => "Failed to parse response: " ++ fault.message
  | .connection url => "Connection failed: Cannot connect to " ++ url

/-- The failure that an error in a response stands for. -/
def RpcError.toClientError (e : RpcError) : ClientError := .rpc e.code e.message

/-- A course of calls in a conversation. -/
abbrev Talking (σ : Type) := ExceptT ClientError (StateM (Session σ))

/-- A client of a relay. -/
structure RelayClient (σ : Type) where
  url : String
  exchange : Exchange σ

namespace RelayClient

variable {σ α : Type}

/-- What the text `body` of a response tells. An error counts before a result. -/
def readResponse (result : Decoder α) (body : String) : Except ClientError α :=
  match (RpcResponse.decoder result).run body with
  | .error _ => .error (.parse .undecodable)
  | .ok response =>
    match response.error, response.result with
    | some e, _ => .error e.toClientError
    | none, some a => .ok a
    | none, none => .error (.parse .noResult)

/-- What the reply to a call tells; its status does not count. -/
def readReply (client : RelayClient σ) (result : Decoder α) : Reply → Except ClientError α
  | .unreachable => .error (.connection client.url)
  | .silence => .error (.http none)
  | .response _ body => readResponse result body

/-- The failure that the reply to a notification tells; its text does not count. -/
def sendError? (client : RelayClient σ) : Reply → Option ClientError
  | .unreachable => some (.connection client.url)
  | .silence => some (.http none)
  | .response status _ => if 400 ≤ status ∧ status < 600 then some (.http (some status)) else none

/-- Calls `method` with `params` and waits for its result. -/
def call (client : RelayClient σ) (method : String) (params : List Json) (result : Decoder α) :
    Talking σ α := do
  let id ← (Session.takeId : StateM (Session σ) UInt64)
  let reply ← Session.post client.exchange
    ⟨none, (RpcRequest.mk method (.array params) (some id)).toJson⟩
  ExceptT.mk (return client.readReply result reply)

/-- Sends `method` with `params` as a notification. -/
def notify (client : RelayClient σ) (method : String) (params : List Json) : Talking σ Unit := do
  let reply ← Session.post client.exchange
    ⟨none, (RpcRequest.mk method (.array params) none).toJson⟩
  match client.sendError? reply with
  | some e => throw e
  | none => return ()

/-- Appends `message` to `channel`. -/
def send (client : RelayClient σ) (channel : String) (message : Json) : Talking σ Unit :=
  client.notify "send" [.string channel, message]

/-- The number of messages of `channel`. -/
def getSeq (client : RelayClient σ) (channel : String) : Talking σ Nat := do
  let answer ← client.call "getseq" [.string channel] SeqAnswer.decoder
  return answer.seq

/-- The messages of `channel` past the position `start`. -/
def receive (client : RelayClient σ) (channel : String) (start : Nat) : Talking σ Slice :=
  client.call "receive" [.string channel, Json.ofCount start] Slice.decoder

theorem sendError?_response (client : RelayClient σ) (status : Nat) (body : String) :
    client.sendError? (.response status body) =
      if 400 ≤ status ∧ status < 600 then some (.http (some status)) else none := rfl

end RelayClient

end StateChannel
