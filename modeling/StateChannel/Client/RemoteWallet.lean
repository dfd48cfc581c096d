import StateChannel.Client.Exchange
import StateChannel.Client.Response
import StateChannel.Signing.Oracle

/-!
# Remote wallets

A wallet that is asked over an exchange. Signatures travel in base64. A signer is asked for by
verifying against the empty address.

## Main definitions

* `WalletError`, `WalletReply`, `AddressCheck`, `AddressInfo`, `MessageCheck`: what the
  wallet answers
* `RemoteWallet`: a wallet at the other end of an exchange
* `RemoteWallet.oracle`, `RemoteWallet.verifier`: the wallet as an oracle and as a verifier

## Main results

* `MessageCheck.signer?_of_not_valid`: a signature that is not valid has no signer
-/

namespace StateChannel

/-- The error of a wallet's response. -/
structure WalletError where
  code : Int32
  message : String
  deriving DecidableEq, Repr

/-- A wallet's response. -/
structure WalletReply (α : Type) where
  result : Option α
  error : Option WalletError
  deriving Repr

/-- The answer about the form of an address. -/
structure AddressCheck where
  isValid : Bool
  deriving DecidableEq, Repr

/-- The answer about the key of an address. -/
structure AddressInfo where
  isMine : Bool
  deriving DecidableEq, Repr

/-- The answer about a signature. -/
structure MessageCheck where
  isValid : Bool
  /-- The address that signed. -/
  address : Option String
  deriving DecidableEq, Repr

/-- The signer, where the signature is valid. -/
def MessageCheck.signer? (c : MessageCheck) : Option String := if c.isValid then c.address else none

theorem MessageCheck.signer?_of_not_valid {c : MessageCheck} (h : c.isValid = false) :
    c.signer? = none := by
  simp [signer?, h]

/-! ## Reading -/

/-- Reads the error of a response. -/
def WalletError.decoder : Decoder WalletError :=
  Decoder.record "WalletError"
    ((Fields.required "code" Decoder.i32).and (Fields.required "message" Decoder.string)
      |>.map fun (code, message) => ⟨code, message⟩)

/-- Reads a response. -/
def WalletReply.decoder (result : Decoder α) : Decoder (WalletReply α) :=
  Decoder.record "WalletReply"
    ((Fields.nullable "result" result).and
      (Fields.withDefault "error" (Decoder.optional WalletError.decoder) none)
      |>.map fun (result, error) => ⟨result, error⟩)

/-- Reads an answer about the form of an address. -/
def AddressCheck.decoder : Decoder AddressCheck :=
  Decoder.record "ValidateAddressResult"
    ((Fields.required "isvalid" Decoder.boolean).map AddressCheck.mk)

/-- Reads an answer about the key of an address. -/
def AddressInfo.decoder : Decoder AddressInfo :=
  Decoder.record "AddressInfoResult"
    ((Fields.required "ismine" Decoder.boolean).map AddressInfo.mk)

/-- Reads an answer about a signature. -/
def MessageCheck.decoder : Decoder MessageCheck :=
  Decoder.record "VerifyMessageResult"
    ((Fields.required "valid" Decoder.boolean).and
      (Fields.withDefault "address" (Decoder.optional Decoder.string) none)
      |>.map fun (isValid, address) => ⟨isValid, address⟩)

/-! ## Asking -/

/-- A wallet at the other end of an exchange. -/
structure RemoteWallet (σ : Type) where
  exchange : Exchange σ
  /-- A name with its password; a name alone has the empty password. -/
  credentials : Option (String × Option String)

namespace RemoteWallet

open Signing (Asking OracleError)

variable {σ α : Type}

/-- The header that says who asks. -/
def authorization (wallet : RemoteWallet σ) : Option String :=
  wallet.credentials.map fun (user, password) => basicAuthorization user (password.getD "")

/-- What a reply to `method` tells; its status does not count, and an error counts before a
result. -/
def readReply (method : String) (result : Decoder α) : Reply → Except OracleError α
  | .unreachable => .error (.transport "error sending request")
  | .silence => .error (.transport "operation timed out")
  | .response _ body =>
    match (WalletReply.decoder result).run body with
    | .error _ => .error (.invalidResponse "error decoding response body")
    | .ok response =>
      match response.error, response.result with
      | some e, _ => .error (.rpc e.code e.message)
      | none, some a => .ok a
      | none, none => .error (.invalidResponse (method ++ ": missing result"))

/-- Calls `method` of the wallet with `params`. -/
def call (wallet : RemoteWallet σ) (method : String) (params : List Json) (result : Decoder α) :
    Asking (Session σ) α := do
  let id ← (Session.takeId : StateM (Session σ) UInt64)
  let reply ← Session.post wallet.exchange
    ⟨wallet.authorization, (RpcRequest.mk method (.array params) (some id)).toJson⟩
  ExceptT.mk (return readReply method result reply)

/-- Reads a signature from its base64 `text`. -/
def readSignature (text : String) : Except OracleError Bytes :=
  match Base64.decode? text with
  | some signature => .ok signature
  | none => .error (.invalidResponse "signature is not base64")

/-- The wallet as an oracle. -/
def oracle (wallet : RemoteWallet σ) : Signing.Oracle (Session σ) where
  validateAddress address := do
    let check ← wallet.call "validateaddress" [.string address] AddressCheck.decoder
    return check.isValid
  isMine address := do
    let info ← wallet.call "getaddressinfo" [.string address] AddressInfo.decoder
    return info.isMine
  sign address message := do
    let text ← wallet.call "signmessage" [.string address, .string message] Decoder.string
    ExceptT.mk (return readSignature text)

/-- The wallet as a verifier. -/
def verifier (wallet : RemoteWallet σ) : Signing.Verifier (Session σ) where
  recoverSigner message signature := do
    let check ← wallet.call "verifymessage"
      [.string "", .string message, .string (Base64.encode signature)] MessageCheck.decoder
    return check.signer?

end RemoteWallet

end StateChannel
