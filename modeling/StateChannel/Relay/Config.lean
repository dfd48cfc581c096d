import StateChannel.Json.Decoder
import StateChannel.Relay.Duration
import StateChannel.Relay.IpAddress

/-!
# Configuration of a relay

## Main definitions

* `Config`: address, waiting time and limits of a relay
* `Config.check`: the limits must not be zero
* `Config.toJson`, `Config.decoder`: the written form, in which every field may be left out

## Main results

* `Config.check_standard`: the standard configuration is accepted
-/

namespace StateChannel

/-- The configuration of a relay. -/
structure Config where
  host : IpAddress
  /-- The port to listen on; zero lets the system choose. -/
  port : UInt16
  /-- How long a reader may wait at most. -/
  receiveTimeout : Duration
  /-- The greatest length of a request's body, in bytes. -/
  maxRequestSize : UInt64
  /-- The greatest number of calls in one batch. -/
  maxBatchSize : UInt64
  deriving DecidableEq, Repr

/-- What makes a configuration unusable. -/
inductive ConfigError
  | zeroTimeout
  | zeroRequestSize
  | zeroBatchSize
  deriving DecidableEq, Repr

/-- The wording of an unusable configuration. -/
def ConfigError.message : ConfigError → String
  | .zeroTimeout => "invalid timeout: receive_timeout cannot be 0"
  | .zeroRequestSize => "invalid limit: max_request_size cannot be 0"
  | .zeroBatchSize => "invalid limit: max_batch_size cannot be 0"

/-- Why a relay does not run. -/
inductive RelayError
  | config (cause : ConfigError)
  /-- The address cannot be listened on. -/
  | bind (address : String) (detail : String)
  deriving DecidableEq, Repr

/-- The wording of a relay's failure. -/
def RelayError.message : RelayError → String
  | .config cause => "configuration error: " ++ cause.message
  | .bind address detail => "server bind error on " ++ address ++ ": " ++ detail

namespace Config

/-- The configuration without any settings: the defaults of all fields. -/
def standard : Config where
  host := .loopback
  port := 32500
  receiveTimeout := ⟨3000⟩
  maxRequestSize := 1048576
  maxBatchSize := 100

/-- Refuses limits of zero: `receiveTimeout` first, then `maxRequestSize` and `maxBatchSize`. -/
def check (c : Config) : Except ConfigError Unit :=
  if c.receiveTimeout.millis = 0 then .error .zeroTimeout
  else if c.maxRequestSize = 0 then .error .zeroRequestSize
  else if c.maxBatchSize = 0 then .error .zeroBatchSize
  else .ok ()

/-- The address with the port. -/
def bindAddress (c : Config) : String := c.host.withPort c.port.toNat

/-- The written form. -/
def toJson (c : Config) : Json :=
  Json.ofMembers [
    ("host", .string c.host.text),
    ("port", Json.ofUInt64 c.port.toUInt64),
    ("receive_timeout", .string c.receiveTimeout.text),
    ("max_request_size", Json.ofUInt64 c.maxRequestSize),
    ("max_batch_size", Json.ofUInt64 c.maxBatchSize)]

/-- Reads an address. -/
def hostDecoder : Decoder IpAddress :=
  Decoder.parsed "IP address" fun s =>
    match IpAddress.parse? s with
    | some ip => .ok ip
    | none => .error "invalid IP address syntax"

/-- What a fault of a duration means for the value that it stands in. -/
def refusalOf : DurationFault → Refusal
  | .refused cause => .mismatch (.badText cause.message)
  | .overflow => .overflow

/-- Reads a duration. -/
def durationDecoder : Decoder Duration := fun depth node => do
  let s ← Decoder.string depth node
  (Duration.parse s).mapError refusalOf

/-- Reads a configuration; a field that is left out has its value from `standard`. -/
def decoder : Decoder Config :=
  Decoder.record "RelayConfig"
    ((((((Fields.withDefault "host" hostDecoder standard.host).and
      (Fields.withDefault "port" Decoder.u16 standard.port)).and
      (Fields.withDefault "receive_timeout" durationDecoder standard.receiveTimeout)).and
      (Fields.withDefault "max_request_size" Decoder.size standard.maxRequestSize)).and
      (Fields.withDefault "max_batch_size" Decoder.size standard.maxBatchSize))
      |>.map fun ((((host, port), timeout), size), batch) => ⟨host, port, timeout, size, batch⟩)

theorem check_standard : check standard = .ok () := rfl

end Config

end StateChannel
