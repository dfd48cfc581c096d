import StateChannel.Client.WalletDaemon
import StateChannel.Proofs.Bytes.Codecs
import StateChannel.Proofs.Client.Posting
import StateChannel.Proofs.Json.Records
import StateChannel.Proofs.Signing.Collection
import StateChannel.Proofs.Signing.Wallet

/-!
# A wallet behind an exchange

Whoever asks a wallet over an exchange gets the answers that the wallet itself gives. The other end
reads the text of each request and replies with the text of an object, in which more may stand than
the answer. So collecting and verifying with a remote wallet is the same as with the wallet.

## Main definitions

* `Json.IsObject`: a value is an object of a certain kind, with every key once
* `Post.Asks`, `Reply.Gives`: what is read in a request, and what is read in a reply
* `Wallet.ServedBy`: the other end gives the answers of a wallet
* `Signing.Oracle.Speaks`: an oracle gives the answers of a wallet
* `RemoteWallet.keyholder`: the daemon of a wallet that holds a single key

## Main results

* `RemoteWallet.ensures_call`: a call ensures the answer that the other end gives
* `Signing.ensures_signAll_of_speaks`: what every such oracle signs
* `RemoteWallet.refines`: a remote wallet collects and verifies like the wallet itself
-/

namespace StateChannel

/-! ### What stands in the texts -/

/-- `value` is an object whose members are of some `kind`, each key being there once. -/
def Json.IsObject (kind : Members → Prop) (value : Json) : Prop :=
  ∃ members, value = .object members ∧ (members.map Prod.fst).Nodup ∧ kind members

/-- An object that says whether an address is valid, as `c` does. -/
def AddressCheck.IsWritten (c : AddressCheck) : Json → Prop :=
  Json.IsObject fun members => Members.find? "isvalid" members = some (.bool c.isValid)

/-- An object that says whether the key of an address is held, as `c` does. -/
def AddressInfo.IsWritten (c : AddressInfo) : Json → Prop :=
  Json.IsObject fun members => Members.find? "ismine" members = some (.bool c.isMine)

/-- An object that says whether a signature is valid and who signed, as `c` does. Where `c` names
nobody, there is no address, or it is null. -/
def MessageCheck.IsWritten (c : MessageCheck) : Json → Prop :=
  Json.IsObject fun members => Members.find? "valid" members = some (.bool c.isValid) ∧
    (Members.find? "address" members = c.address.map .string ∨
      c.address = none ∧ Members.find? "address" members = some .null)

/-- The `reply` tells a result of some `form`, whatever its status, and no error. -/
def Reply.Gives (form : Json → Prop) (reply : Reply) : Prop :=
  ∃ status body root, reply = .response status body ∧
    Document.read body = ⟨Node.ofJson root, false⟩ ∧
    root.IsObject fun members =>
      (∃ result, Members.find? "result" members = some result ∧ form result) ∧
        ∀ e ∈ Members.find? "error" members, e = .null

/-- The `post` is made under the header `authorization`, and its text calls `method` with `params`
and has a number for its id. -/
structure Post.Asks (post : Post) (authorization : Option String) (method : String)
    (params : List Json) : Prop where
  header : post.authorization = authorization
  text : ∃ request id, Json.parse? post.body.render = some request ∧
    request.member? "id" = some (Json.ofUInt64 id) ∧
    request.member? "method" = some (.string method) ∧
    request.member? "params" = some (.array params)

variable {σ α : Type}

/-- The other end answers the four methods as the wallet `w` does, in whatever state it is, to
those who post under the header `authorization`. Signatures are in base64. -/
structure Wallet.ServedBy (w : Wallet) (exchange : Exchange σ) (authorization : Option String) :
    Prop where
  validateAddress : ∀ {post : Post} {address : String} (state : σ),
    post.Asks authorization "validateaddress" [.string address] →
    ((exchange post).run state).1.Gives (AddressCheck.IsWritten ⟨Address.IsValid address⟩)
  isMine : ∀ {post : Post} {address : String} (state : σ),
    post.Asks authorization "getaddressinfo" [.string address] →
    ((exchange post).run state).1.Gives (AddressInfo.IsWritten ⟨w.Holds address⟩)
  sign : ∀ {post : Post} {address message : String} {signature : Bytes} (state : σ),
    w.signature? address message = some signature →
    post.Asks authorization "signmessage" [.string address, .string message] →
    ((exchange post).run state).1.Gives (· = .string (Base64.encode signature))
  recoverSigner : ∀ {post : Post} {message : String} {signature : Bytes} (state : σ),
    post.Asks authorization "verifymessage"
      [.string "", .string message, .string (Base64.encode signature)] →
    ((exchange post).run state).1.Gives (MessageCheck.IsWritten
      ⟨(PersonalMessage.recover? message signature).isSome,
        PersonalMessage.recover? message signature⟩)

/-! ### What is read in a reply -/

/-- `decode` makes `a` of every result of the `form`. -/
def Decoder.Reads (decode : Decoder α) (form : Json → Prop) (a : α) : Prop :=
  ∀ result, form result → result ≠ .null ∧ ∀ depth, decode (depth + 1) (.ofJson result) = .ok a

theorem AddressCheck.reads_decoder (c : AddressCheck) :
    AddressCheck.decoder.Reads c.IsWritten c := by
  rintro _ ⟨members, rfl, distinct, found⟩
  exact ⟨Json.noConfusion, fun depth => Decoder.record_required distinct found rfl _ _⟩

theorem AddressInfo.reads_decoder (c : AddressInfo) : AddressInfo.decoder.Reads c.IsWritten c := by
  rintro _ ⟨members, rfl, distinct, found⟩
  exact ⟨Json.noConfusion, fun depth => Decoder.record_required distinct found rfl _ _⟩

theorem MessageCheck.reads_decoder (c : MessageCheck) :
    MessageCheck.decoder.Reads c.IsWritten c := by
  rintro _ ⟨members, rfl, distinct, valid, address⟩
  refine ⟨Json.noConfusion, fun depth => ?_⟩
  have takes : Fields.Takes Decoder.boolean depth (Members.find? "valid" members) none
      (some c.isValid) := by
    rw [valid]
    exact .value rfl
  -- The field of the address stays empty, or it holds what is said about the address.
  obtain ⟨said, takes', meant⟩ : ∃ said, Fields.Takes (Decoder.optional Decoder.string) depth
      (Members.find? "address" members) none said ∧ said.getD none = c.address := by
    rcases address with found | ⟨nobody, found⟩
    · cases named : c.address with
      | none =>
        rw [found, named]
        exact ⟨none, .nothing none, rfl⟩
      | some address =>
        rw [found, named]
        exact ⟨some (some address), .value rfl, rfl⟩
    · rw [found, nobody]
      exact ⟨some none, .value rfl, rfl⟩
  refine Decoder.record_ofJson (Fields.readMembers_two (by decide) distinct takes takes' _) ?_ _
  have made : (⟨c.isValid, said.getD none⟩ : MessageCheck) = c := by rw [meant]
  rw [← made]
  cases said <;> rfl

theorem Decoder.reads_string (text : String) : Decoder.string.Reads (· = .string text) text := by
  rintro _ rfl
  exact ⟨Json.noConfusion, fun _ => rfl⟩

namespace RemoteWallet

/-- If `decode` reads results of the `form` as `a`, then a `reply` that gives one is read as
`a`. -/
theorem readReply_of_gives {decode : Decoder α} {form : Json → Prop} {a : α}
    (reads : decode.Reads form a) {reply : Reply} (gives : reply.Gives form) (method : String) :
    readReply method decode reply = .ok a := by
  obtain ⟨status, body, _, rfl, text, members, rfl, distinct, ⟨result, found, formed⟩, silent⟩ :=
    gives
  obtain ⟨present, read⟩ := reads result formed
  have takes : Fields.Takes (Decoder.optional decode) (Node.maxDepth - 1)
      (Members.find? "result" members) none (some (some a)) := by
    rw [found]
    exact .value (Decoder.optional_of_ne_null present (read _))
  -- There is no error, or there is one that says nothing.
  obtain ⟨said, takes', meant⟩ : ∃ said, Fields.Takes (Decoder.optional WalletError.decoder)
      (Node.maxDepth - 1) (Members.find? "error" members) none said ∧ said.getD none = none := by
    cases error : Members.find? "error" members with
    | none => exact ⟨none, .nothing none, rfl⟩
    | some e =>
      obtain rfl := silent e error
      exact ⟨some none, .value rfl, rfl⟩
  have whole : WalletReply.decoder decode Node.maxDepth (Node.ofJson (.object members)) =
      .ok ⟨some a, none⟩ := by
    refine Decoder.record_ofJson (Fields.readMembers_two (by decide) distinct takes takes' _) ?_ _
    rw [← meant]
    cases said <;> rfl
  have run : (WalletReply.decoder decode).run body = .ok ⟨some a, none⟩ := by
    rw [Decoder.run, text, whole]
    rfl
  rw [readReply, run]

end RemoteWallet

/-! ### Calls -/

/-- The text that a call of `method` posts `Asks` for it with its `params`. -/
theorem Post.asks_call (authorization : Option String) (method : String) {params : List Json}
    (texts : ∀ param ∈ params, ∃ text, param = .string text) (id : UInt64) :
    (Post.mk authorization (RpcRequest.mk method (.array params) (some id)).toJson).Asks
      authorization method params := by
  have shape : ∀ param ∈ params, param.FloatFree ∧ param.Ordered ∧ param.depth ≤ 0 := by
    intro param inside
    obtain ⟨text, rfl⟩ := texts param inside
    exact ⟨.string text, .string text, Nat.le_refl 0⟩
  have free : (Json.array params).FloatFree := .array fun param inside => (shape param inside).1
  have ordered : (Json.array params).Ordered := .array fun param inside => (shape param inside).2.1
  have room : (Json.array params).depth ≤ 1 :=
    Json.depth_array_le_iff.2 fun param inside => (shape param inside).2.2
  refine ⟨rfl, _, id, (Json.parse?_render (RpcRequest.floatFree_toJson free)
    (RpcRequest.ordered_toJson ordered)).trans (if_pos ?_), RpcRequest.member?_id _,
    RpcRequest.member?_method _, RpcRequest.member?_params _⟩
  exact Nat.le_trans (RpcRequest.depth_toJson_le room) (by decide)

namespace RemoteWallet

open Signing (Ensures)

/-- A call takes an id, posts its request, and tells what it reads in the reply. -/
theorem call_run (remote : RemoteWallet σ) (decode : Decoder α) (method : String)
    (params : List Json) (session : Session σ) :
    let post : Post := ⟨remote.authorization,
      (RpcRequest.mk method (.array params) (some session.nextId)).toJson⟩
    (remote.call method params decode).run.run session =
      (readReply method decode ((remote.exchange post).run session.server).1,
        ⟨session.nextId + 1, ((remote.exchange post).run session.server).2⟩) := rfl

/-- A call of `method` ensures `a`, if the other end gives a result that is read as `a`, in
whatever state it is. -/
theorem ensures_call (remote : RemoteWallet σ) {decode : Decoder α} {form : Json → Prop} {a : α}
    (reads : decode.Reads form a) (method : String) {params : List Json}
    (texts : ∀ param ∈ params, ∃ text, param = .string text)
    (gives : ∀ {post : Post} (state : σ), post.Asks remote.authorization method params →
      ((remote.exchange post).run state).1.Gives form) :
    Ensures (remote.call method params decode) (· = a) := by
  intro session
  have asks := Post.asks_call remote.authorization method texts session.nextId
  have read := readReply_of_gives reads (gives session.server asks) method
  exact ⟨a, _, (remote.call_run decode method params session).trans (congrArg (·, _) read), rfl⟩

end RemoteWallet

/-! ### Oracles that speak for a wallet -/

namespace Wallet

/-- The signatures of `w` over `message` for those of `participants` whose key it holds, in
order. -/
def signatures (w : Wallet) (message : String) (participants : List Participant) : List Bytes :=
  participants.filterMap fun p =>
    if Address.IsValid p.address then w.signature? p.address message else none

theorem signature?_eq_none {w : Wallet} {address : String} (stranger : ¬ w.Holds address)
    (message : String) : w.signature? address message = none := by
  rw [signature?, key?_eq_none_iff.2 stranger]
  rfl

end Wallet

namespace Signing

variable {τ : Type} {o : Oracle σ} {v : Verifier τ} {w : Wallet} {message : String}

/-- The oracle `o` gives the answers of `w`, and its signatures over `message`. -/
structure Oracle.Speaks (o : Oracle σ) (w : Wallet) (message : String) : Prop where
  validateAddress : ∀ address,
    Ensures (o.validateAddress address) (· = decide (Address.IsValid address))
  isMine : ∀ address, Ensures (o.isMine address) (· = decide (w.Holds address))
  sign : ∀ {address signature}, w.signature? address message = some signature →
    Ensures (o.sign address message) (· = signature)

theorem ensures_signFor_of_speaks (speaks : o.Speaks w message) {p : Participant}
    (signs : w.Holds p.address → (w.signature? p.address message).isSome) :
    Ensures (o.signFor message p.address) (·.toList = w.signatures message [p]) := by
  unfold Oracle.signFor
  -- Each question is answered with what the wallet knows, and so the next one is the same.
  apply (speaks.validateAddress p.address).bind
  rintro _ rfl
  by_cases good : Address.IsValid p.address
  · simp only [good, decide_true, if_true]
    apply (speaks.isMine p.address).bind
    rintro _ rfl
    by_cases own : w.Holds p.address
    · obtain ⟨signature, signed⟩ := Option.isSome_iff_exists.1 (signs own)
      simp only [own, decide_true, if_true]
      apply (speaks.sign signed).bind
      rintro _ rfl
      exact .pure (by simp [Wallet.signatures, good, signed])
    · simp only [own, decide_false, Bool.false_eq_true, if_false]
      exact .pure (by simp [Wallet.signatures, Wallet.signature?_eq_none own])
  · simp only [good, decide_false, Bool.false_eq_true, if_false]
    exact .pure (by simp [Wallet.signatures, good])

/-- An oracle that speaks for `w`, and gets a signature for every key that `w` holds, signs for
`participants` as `signatures` says. -/
theorem ensures_signAll_of_speaks (speaks : o.Speaks w message) {participants : List Participant}
    (signs : ∀ p ∈ participants, w.Holds p.address → (w.signature? p.address message).isSome) :
    Ensures (o.signAll message participants) (· = w.signatures message participants) := by
  induction participants with
  | nil => exact .pure rfl
  | cons p participants ih =>
    have split : w.signatures message (p :: participants) =
        w.signatures message [p] ++ w.signatures message participants :=
      List.filterMap_append (l := [p])
    apply (ensures_signFor_of_speaks speaks (signs p List.mem_cons_self)).bind
    intro own first
    apply (ih fun q inside => signs q (List.mem_cons_of_mem p inside)).bind
    rintro _ rfl
    exact .pure (by rw [split, first])

/-- If each signature is recovered as `signer?` says, all of them are, in order. -/
theorem ensures_recoverAll_of_speaks {signer? : Bytes → Option String}
    (recovers : ∀ signature, Ensures (v.recoverSigner message signature) (· = signer? signature))
    (signatures : List Bytes) :
    Ensures (v.recoverAll message signatures) (· = signatures.filterMap signer?) := by
  induction signatures with
  | nil => exact .pure rfl
  | cons signature signatures ih =>
    have split : (signature :: signatures).filterMap signer? =
        (signer? signature).toList ++ signatures.filterMap signer? := by
      cases found : signer? signature <;> simp [found]
    apply (recovers signature).bind
    rintro _ rfl
    apply ih.bind
    rintro _ rfl
    exact .pure split.symm

/-- An oracle that speaks for `w` over the message of `c` and `data` collects the `signatures` of
`w`. -/
theorem ensures_collect_of_speaks {c : Context} {data : Bytes}
    (accepted : c.message data = .ok message) (speaks : o.Speaks w message)
    (signs : ∀ p ∈ c.metadata.participants, w.Holds p.address →
      (w.signature? p.address message).isSome) :
    Ensures (collect o c data) (· = ⟨data, w.signatures message c.metadata.participants⟩) := by
  unfold collect
  rw [accepted]
  apply ((ensures_signAll_of_speaks speaks signs).adapt _).bind
  rintro _ rfl
  exact .pure rfl

/-- Where `c.message` is refused, it is for an argument that cannot stand in its line. -/
theorem exists_cause_of_message_eq_error {c : Context} {data : Bytes} {e : SigningError}
    (refused : c.message data = .error e) : ∃ cause, e = .invalidArgument cause := by
  rw [Context.message, compose, ChannelId.ofBytes_bytes] at refused
  by_cases game : IsSingleLine c.gameId
  · have first : checkLine .gameId c.gameId = .ok () := if_pos game
    by_cases line : IsSingleLine c.topic
    · have second : checkLine .topic c.topic = .ok () := if_pos line
      rw [first, second] at refused
      cases refused
    · have second : checkLine .topic c.topic = .error (.invalidArgument (.lineBreak .topic)) :=
        if_neg line
      rw [first, second] at refused
      exact ⟨_, (Except.error.inj refused).symm⟩
  · have first : checkLine .gameId c.gameId = .error (.invalidArgument (.lineBreak .gameId)) :=
      if_neg game
    rw [first] at refused
    exact ⟨_, (Except.error.inj refused).symm⟩

/-- If each signature is recovered as `signer?` says, verification finds the indices of what it
gives. -/
theorem ensures_verify_of_recovers {c : Context} {signed : SignedData}
    (accepted : c.message signed.data = .ok message) {signer? : Bytes → Option String}
    (recovers : ∀ signature, Ensures (v.recoverSigner message signature) (· = signer? signature)) :
    Ensures (verify v c signed)
      (· = signerIndices c.metadata.participants (signed.signatures.filterMap signer?)) := by
  unfold verify
  rw [accepted]
  apply ((ensures_recoverAll_of_speaks recovers signed.signatures).adapt _).bind
  rintro _ rfl
  exact .pure rfl

end Signing

namespace Wallet

open Signing

variable {τ : Type} (w : Wallet)

theorem sign_oracle {address message : String} {signature : Bytes}
    (signed : w.signature? address message = some signature) :
    (w.oracle τ).sign address message = pure signature := by
  obtain ⟨key, held, made⟩ := Option.bind_eq_some_iff.1 signed
  simp only [oracle, held, made]
  rfl

/-- The oracle of a wallet speaks for it. -/
theorem speaks_oracle (τ : Type) (message : String) : (w.oracle τ).Speaks w message where
  validateAddress _ := .pure rfl
  isMine _ := .pure rfl
  sign signed := by
    rw [sign_oracle w signed]
    exact .pure rfl

theorem ensures_recoverSigner (τ : Type) (message : String) (signature : Bytes) :
    Ensures ((verifier τ).recoverSigner message signature)
      (· = PersonalMessage.recover? message signature) := .pure rfl

end Wallet

namespace RemoteWallet

open Signing

variable {remote : RemoteWallet σ} {w : Wallet}

/-- The oracle of a remote wallet speaks for the wallet `w` by which its exchange is served. -/
theorem speaks_oracle (served : w.ServedBy remote.exchange remote.authorization)
    (message : String) : remote.oracle.Speaks w message where
  validateAddress address := by
    apply (remote.ensures_call (AddressCheck.reads_decoder _) "validateaddress"
      (List.forall_mem_singleton.2 ⟨_, rfl⟩) fun state asks =>
        served.validateAddress state asks).bind
    rintro _ rfl
    exact .pure rfl
  isMine address := by
    apply (remote.ensures_call (AddressInfo.reads_decoder _) "getaddressinfo"
      (List.forall_mem_singleton.2 ⟨_, rfl⟩) fun state asks => served.isMine state asks).bind
    rintro _ rfl
    exact .pure rfl
  sign {address signature} signed := by
    apply (remote.ensures_call (Decoder.reads_string _) "signmessage"
      (List.forall_mem_cons.2 ⟨⟨_, rfl⟩, List.forall_mem_singleton.2 ⟨_, rfl⟩⟩)
      fun state asks => served.sign state signed asks).bind
    rintro _ rfl
    -- What travels in base64 comes back as it was.
    intro session
    refine ⟨signature, session, ?_, rfl⟩
    rw [readSignature, Base64.decode?_encode]
    rfl

/-- A remote wallet whose exchange is served recovers whom `PersonalMessage.recover?` does. -/
theorem ensures_recoverSigner (served : w.ServedBy remote.exchange remote.authorization)
    (message : String) (signature : Bytes) :
    Ensures (remote.verifier.recoverSigner message signature)
      (· = PersonalMessage.recover? message signature) := by
  apply (remote.ensures_call (MessageCheck.reads_decoder _) "verifymessage"
    (List.forall_mem_cons.2 ⟨⟨_, rfl⟩, List.forall_mem_cons.2 ⟨⟨_, rfl⟩,
      List.forall_mem_singleton.2 ⟨_, rfl⟩⟩⟩)
    fun state asks => served.recoverSigner state asks).bind
  rintro _ rfl
  refine .pure ?_
  cases PersonalMessage.recover? message signature <;> rfl

/-- **A remote wallet is as good as the wallet behind it**, in any `session`, and in whatever
`state` either end is. In every context `c` and for all `data`, if `w` signs the message with each
key that it holds for a participant, collecting gives the same signatures, or the same complaint
about an argument. And whatever bytes are in `signed`, verifying gives the same. -/
theorem refines (served : w.ServedBy remote.exchange remote.authorization) (session : Session σ)
    {τ : Type} (state : τ) :
    (∀ (c : Context) (data : Bytes),
      (∀ message, c.message data = .ok message → ∀ p ∈ c.metadata.participants,
        w.Holds p.address → (w.signature? p.address message).isSome) →
      ((collect remote.oracle c data).run.run session).1 =
          ((collect (w.oracle τ) c data).run.run state).1 ∧
        ((∃ signed, ((collect (w.oracle τ) c data).run.run state).1 = .ok signed) ∨
          ∃ cause, ((collect (w.oracle τ) c data).run.run state).1 =
            .error (.invalidArgument cause))) ∧
      ∀ (c : Context) (signed : SignedData),
        ((verify remote.verifier c signed).run.run session).1 =
          ((verify (Wallet.verifier τ) c signed).run.run state).1 := by
  refine ⟨fun c data signs => ?_, fun c signed => ?_⟩
  · cases composed : c.message data with
    | error e =>
      obtain ⟨cause, rfl⟩ := exists_cause_of_message_eq_error composed
      rw [collect_of_message_eq_error composed, collect_of_message_eq_error composed]
      exact ⟨rfl, .inr ⟨cause, rfl⟩⟩
    | ok message =>
      -- The two collections give the signatures of the one list that the wallet would make.
      obtain ⟨_, _, far, rfl⟩ := ensures_collect_of_speaks composed (speaks_oracle served message)
        (signs message composed) session
      obtain ⟨_, _, near, rfl⟩ := ensures_collect_of_speaks composed (w.speaks_oracle τ message)
        (signs message composed) state
      rw [far, near]
      exact ⟨rfl, .inl ⟨_, rfl⟩⟩
  · cases composed : c.message signed.data with
    | error e => rw [verify_of_message_eq_error composed, verify_of_message_eq_error composed]
    | ok message =>
      obtain ⟨_, _, far, rfl⟩ := ensures_verify_of_recovers composed
        (ensures_recoverSigner served message) session
      obtain ⟨_, _, near, rfl⟩ := ensures_verify_of_recovers composed
        (Wallet.ensures_recoverSigner τ message) state
      rw [far, near]

end RemoteWallet

/-! ### The daemon -/

/-- An object made of `members` has under each key what they say last for it, once. -/
theorem Json.isObject_ofMembers {members : Members} {kind : Members → Prop}
    (holds : ∀ inside, (∀ key, Members.find? key inside = members.reverse.lookup key) →
      kind inside) : (Json.ofMembers members).IsObject kind := by
  obtain ⟨inside, same, distinct, found⟩ := Json.exists_ofMembers members
  exact ⟨inside, same, distinct, holds inside found⟩

namespace MessageCheck

theorem isWritten_toJson (c : MessageCheck) : c.IsWritten c.toJson := by
  obtain ⟨isValid, address⟩ := c
  refine Json.isObject_ofMembers fun inside found => ⟨?_, .inl ?_⟩
  · rw [found]
    cases address <;> simp [List.lookup_cons]
  · rw [found]
    cases address <;> simp [List.lookup_cons]

theorem floatFree_toJson (c : MessageCheck) : c.toJson.FloatFree := by
  refine .ofMembers (List.forall_mem_cons.2 ⟨.bool _, fun member inside => ?_⟩)
  obtain ⟨address, -, rfl⟩ := Option.map_eq_some_iff.1 (Option.mem_toList.1 inside)
  exact .string address

end MessageCheck

namespace Wallet

open Signing

variable {w : Wallet} {expected authorization : Option String}

/-- Who posts the header that the daemon of `w` expects is given what `dispatch` gives for the
method. -/
theorem gives_daemon (fits : ∀ header ∈ expected, authorization = some header) {post : Post}
    {method : String} {params : List Json} (asks : post.Asks authorization method params)
    {given : Json} {form : Json → Prop} (formed : form given) (free : given.FloatFree)
    (dispatched : w.dispatch method
      (fun index => (params[index]?.bind Json.string?).getD "") = .ok given) (state : σ) :
    ((w.daemon expected post).run state).1.Gives form := by
  obtain ⟨header, request, id, read, hasId, hasMethod, hasParams⟩ := asks
  -- The header fits what the daemon expects, so the request is not turned away.
  have admitted : ¬ ∃ header ∈ expected, post.authorization ≠ some header := by
    rintro ⟨wanted, member, other⟩
    exact other (header.trans (fits wanted member))
  have responds : w.respond request = WalletReply.toJson (Json.ofUInt64 id) (.ok given) := by
    simp only [respond, hasId, hasMethod, hasParams, Option.bind_some, Json.string?,
      Option.getD_some, dispatched]
  have replied : ((w.daemon expected post).run state).1 =
      .response 200 (WalletReply.toJson (Json.ofUInt64 id) (.ok given)).render := by
    rw [← responds, daemon, if_neg admitted, read]
    rfl
  -- The reply is an object of error, id and result, and the result has the form that is wanted.
  refine ⟨200, _, _, replied, Document.read_render ?_, Json.isObject_ofMembers ?_⟩
  · refine .ofMembers fun member inside => ?_
    simp only [List.mem_cons, List.not_mem_nil, or_false] at inside
    rcases inside with rfl | rfl | rfl
    · exact free
    · exact .null
    · exact .ofUInt64 id
  · intro inside found
    simp [found, List.lookup_cons, formed]

/-- The daemon of `w` serves it to those who post the header that it expects. -/
theorem servedBy_daemon (w : Wallet) (fits : ∀ header ∈ expected, authorization = some header) :
    w.ServedBy (w.daemon expected : Exchange σ) authorization where
  validateAddress state asks := by
    refine gives_daemon fits asks (Json.isObject_ofMembers fun inside found => ?_)
      (.ofMembers (List.forall_mem_singleton.2 (.bool _))) rfl state
    rw [found]
    rfl
  isMine state asks := by
    refine gives_daemon fits asks (Json.isObject_ofMembers fun inside found => ?_)
      (.ofMembers (List.forall_mem_singleton.2 (.bool _))) rfl state
    rw [found]
    rfl
  sign {post address message signature} state signed asks := by
    refine gives_daemon fits asks ?_ (.string (Base64.encode signature)) ?_ state
    · rfl
    · show result ((w.oracle Unit).sign address message) _ = _
      rw [sign_oracle w signed]
      rfl
  recoverSigner {post message signature} state asks := by
    have dispatched : w.dispatch "verifymessage" (fun index => (([.string "", .string message,
        .string (Base64.encode signature)] : List Json)[index]?.bind Json.string?).getD "") =
          .ok (MessageCheck.mk (PersonalMessage.recover? message signature).isSome
            (PersonalMessage.recover? message signature)).toJson := by
      show result ((verifier Unit).recoverSigner message
        ((Base64.decode? (Base64.encode signature)).getD [])) _ = _
      rw [Base64.decode?_encode]
      rfl
    exact gives_daemon fits asks (MessageCheck.isWritten_toJson _) (MessageCheck.floatFree_toJson _)
      dispatched state

end Wallet

namespace RemoteWallet

open Signing

/-- The daemon of a wallet that holds `key` alone, asked with the password that it expects. -/
def keyholder (key : SecretKey) : RemoteWallet Unit :=
  ⟨(Wallet.ofKeys [key]).daemon (some (basicAuthorization "user" "word")),
    some ("user", some "word")⟩

/-- A game of chess between Alice, whose address is that of `key`, and Bob, whose address is no
address. -/
def duel (key : SecretKey) : Context := { chess with metadata :=
  { participants := [⟨"Alice", key.address⟩, ⟨"Bob", "bob"⟩], reinit := [7] } }

theorem message_duel (key : SecretKey) : (duel key).message [1] = .ok Wallet.chessMessage := by
  have composed : chess.message [1] = .ok Wallet.chessMessage := by decide +kernel
  -- The participants are no part of the message.
  have same : (duel key).message [1] = chess.message [1] := rfl
  exact same.trans composed

/-- `Wallet.leastKey` signs for Alice through the daemon, and nobody signs for Bob. The signature
leads back to Alice, and bytes that are no signature lead to nobody. -/
theorem refines_keyholder :
    ((collect (keyholder Wallet.leastKey).oracle (duel Wallet.leastKey) [1]).run.run
        (Session.start ())).1 = .ok ⟨[1], [PersonalMessage.encode Wallet.chessSignature]⟩ ∧
      ((verify (keyholder Wallet.leastKey).verifier (duel Wallet.leastKey)
        ⟨[1], [PersonalMessage.encode Wallet.chessSignature, [1, 2, 3]]⟩).run.run
          (Session.start ())).1 = .ok [0] := by
  have composed := message_duel Wallet.leastKey
  have signed : PersonalMessage.sign? Wallet.leastKey Wallet.chessMessage =
      some (PersonalMessage.encode Wallet.chessSignature) := by
    rw [PersonalMessage.sign?, Wallet.sign?_leastKey, Option.map_some]
  have recovered : PersonalMessage.recover? Wallet.chessMessage
      (PersonalMessage.encode Wallet.chessSignature) = some Wallet.leastKey.address :=
    PersonalMessage.recover?_numbers Wallet.sign?_leastKey rfl rfl
  -- From here on it does not count which key, message and signature these are.
  generalize Wallet.leastKey = key at composed signed recovered ⊢
  generalize Wallet.chessMessage = message at composed signed recovered
  generalize PersonalMessage.encode Wallet.chessSignature = signature at signed recovered ⊢
  have valid : Address.IsValid key.address := Address.isValid_ofPoint _
  have invalid : ¬ Address.IsValid "bob" := by decide
  have other : ¬ "bob" = key.address := fun same => invalid (same ▸ valid)
  have nobody : PersonalMessage.recover? message [1, 2, 3] = none := rfl
  have holds : (Wallet.ofKeys [key]).signature? key.address message = some signature := by
    rw [Wallet.signature?, Wallet.key?_ofKeys_singleton, Option.bind_some, signed]
  have signs (text : String) (same : (duel key).message [1] = .ok text) (p : Participant)
      (_ : p ∈ (duel key).metadata.participants) (held : (Wallet.ofKeys [key]).Holds p.address) :
      ((Wallet.ofKeys [key]).signature? p.address text).isSome := by
    obtain rfl := Except.ok.inj (composed.symm.trans same)
    obtain ⟨_, member, address⟩ := Wallet.holds_ofKeys.1 held
    rw [← address, List.mem_singleton.1 member, holds, Option.isSome_some]
  have served : (Wallet.ofKeys [key]).ServedBy (keyholder key).exchange
      (keyholder key).authorization :=
    Wallet.servedBy_daemon _ fun _ expected => expected
  obtain ⟨collects, verifies⟩ := refines served (Session.start ()) ()
  obtain ⟨_, _, collected, rfl⟩ := ensures_collect_of_speaks composed
    (Wallet.speaks_oracle _ Unit _) (signs _ composed) ()
  obtain ⟨_, _, verified, rfl⟩ := @ensures_verify_of_recovers _ _ _ _
    ⟨[1], [signature, [1, 2, 3]]⟩ composed _ (Wallet.ensures_recoverSigner Unit _) ()
  refine ⟨(collects (duel key) [1] signs).1.trans ?_, (verifies (duel key) _).trans ?_⟩
  · rw [collected]
    simp [duel, Wallet.signatures, valid, invalid, holds]
  · rw [verified]
    simp [duel, signerIndices, recovered, nobody, other, List.zipIdx_cons]

end RemoteWallet

end StateChannel
