import StateChannel.Client.RemoteWallet
import StateChannel.Json.Render
import StateChannel.Signing.Wallet

/-!
# Wallet daemons

The other end of a remote wallet: a wallet that answers the four methods from its own keys. It
reads the text of a request and may ask for a header that says who posts.

## Main definitions

* `WalletReply.toJson`, `MessageCheck.toJson`: the written forms of what a wallet answers
* `Wallet.dispatch`, `Wallet.respond`: the result of a method, and the response to a request
* `Wallet.daemon`: a wallet as the other end of an exchange

## Main results

* `Wallet.daemon_state`: answering changes nothing
-/

namespace StateChannel

/-- The written form of a wallet's response. -/
def WalletReply.toJson (id : Json) : Except WalletError Json → Json
  | .ok result => Json.ofMembers [("result", result), ("error", .null), ("id", id)]
  | .error e => Json.ofMembers [("result", .null), ("id", id),
      ("error", Json.ofMembers [("code", Json.ofInt32 e.code), ("message", .string e.message)])]

/-- The written form of an answer about a signature. A failed check tells no address. -/
def MessageCheck.toJson (c : MessageCheck) : Json :=
  Json.ofMembers (("valid", .bool c.isValid) ::
    (c.address.map fun address => ("address", Json.string address)).toList)

namespace Wallet

variable {α σ : Type}

/-- The signature of `address` over `message`, if the key is held and gives one. -/
def signature? (w : Wallet) (address message : String) : Option Bytes :=
  (w.key? address).bind fun key => PersonalMessage.sign? key message

/-- What a wallet answers when `ask` is asked, in its written `form`. -/
def result (ask : Signing.Asking Unit α) (form : α → Json) : Except WalletError Json :=
  ((ask.run.run ()).1.map form).mapError fun e => ⟨-4, e.message⟩

/-- The result of `method` with the texts of its parameters. What is not base64 is taken for a
signature without bytes. -/
def dispatch (w : Wallet) (method : String) (argument : Nat → String) : Except WalletError Json :=
  match method with
  | "validateaddress" =>
    result ((w.oracle Unit).validateAddress (argument 0)) fun isValid =>
      Json.ofMembers [("isvalid", .bool isValid)]
  | "getaddressinfo" =>
    result ((w.oracle Unit).isMine (argument 0)) fun isMine =>
      Json.ofMembers [("ismine", .bool isMine)]
  | "signmessage" =>
    result ((w.oracle Unit).sign (argument 0) (argument 1)) fun signature =>
      .string (Base64.encode signature)
  | "verifymessage" =>
    result ((verifier Unit).recoverSigner (argument 1) ((Base64.decode? (argument 2)).getD []))
      fun signer => (MessageCheck.mk signer.isSome signer).toJson
  | _ => .error ⟨-32601, "Method not found: " ++ method⟩

/-- The response to `request`. What is missing or no text counts as the empty text. -/
def respond (w : Wallet) (request : Json) : Json :=
  let method := ((request.member? "method").bind Json.string?).getD ""
  let argument (index : Nat) : String :=
    match request.member? "params" with
    | some (.array items) => (items[index]?.bind Json.string?).getD ""
    | _ => ""
  WalletReply.toJson ((request.member? "id").getD .null) (w.dispatch method argument)

/-- The wallet `w` as the other end of an exchange. A post without the `expected` header is turned
away. -/
def daemon (w : Wallet) (expected : Option String) : Exchange σ := fun post =>
  if ∃ header ∈ expected, post.authorization ≠ some header then return .response 401 ""
  else
    match Json.parse? post.body.render with
    -- The wording of the fault is left out.
    | none => return .response 400 ""
    | some request => return .response 200 (w.respond request).render

theorem daemon_state (w : Wallet) (expected : Option String) (post : Post) (state : σ) :
    ((w.daemon expected post).run state).2 = state := by
  unfold daemon
  split
  · rfl
  · split <;> rfl

end Wallet

end StateChannel
