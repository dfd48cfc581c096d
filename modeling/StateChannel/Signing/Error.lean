import StateChannel.Bytes.Hex
import StateChannel.Text.Quoted

/-!
# Errors of signing

What can go wrong when a message is built, signatures are collected or a signer is recovered.

## Main definitions

* `OracleError`: failures of a signing oracle
* `SigningError`: failures of this layer, with those of the oracle among them
* `OracleError.message`, `SigningError.message`: their wording
-/

namespace StateChannel

/-- The wording of a hexadecimal error. -/
def HexError.message : HexError → String
  | .oddLength => "Odd number of digits"
  | .badByte byte position =>
    "Invalid character " ++ Quoted.character (Char.ofNat byte.toNat) ++ " at position " ++
      toString position

namespace Signing

/-- Failures of a signing oracle or a verifier of signatures. -/
inductive OracleError
  /-- The oracle could not be reached. -/
  | transport (detail : String)
  /-- The oracle answered with an error. -/
  | rpc (code : Int32) (text : String)
  /-- The answer of the oracle had an unexpected shape. -/
  | invalidResponse (detail : String)
  /-- The oracle holds no key for the address. -/
  | unknownAddress (address : String)
  /-- No signature could be made. -/
  | signing (detail : String)
  deriving DecidableEq, Repr

/-- The wording of an oracle's failure. -/
def OracleError.message : OracleError → String
  | .transport detail => "Transport error: " ++ detail
  | .rpc code text => "RPC error " ++ toString code.toInt ++ ": " ++ text
  | .invalidResponse detail => "Invalid response: " ++ detail
  | .unknownAddress address => "Unknown address: " ++ address
  | .signing detail => "Signing failed: " ++ detail

/-- The fields of a message that must stay on one line. -/
inductive LineField
  | gameId
  | topic
  deriving DecidableEq, Repr

/-- The wording of a field's name. -/
def LineField.text : LineField → String
  | .gameId => "game id"
  | .topic => "topic"

/-- Arguments that no message can be built from. -/
inductive ArgumentError
  | channelIdLength (length : Nat)
  | lineBreak (field : LineField)
  deriving DecidableEq, Repr

/-- The wording of a bad argument. -/
def ArgumentError.message : ArgumentError → String
  | .channelIdLength length => "channel id must be 32 bytes, got " ++ toString length
  | .lineBreak field => field.text ++ " must not contain line breaks or NUL"

end Signing

/-- Failures of building, collecting and verifying. -/
inductive SigningError
  | invalidArgument (cause : Signing.ArgumentError)
  | invalidHex (cause : HexError)
  | oracle (cause : Signing.OracleError)
  deriving DecidableEq, Repr

/-- The wording of a failure. -/
def SigningError.message : SigningError → String
  | .invalidArgument cause => "Invalid argument: " ++ cause.message
  | .invalidHex cause => "Invalid hex: " ++ cause.message
  | .oracle cause => "Signing oracle failed: " ++ cause.message

end StateChannel
