import StateChannel.Signing.Bundle
import StateChannel.Signing.Message
import StateChannel.Signing.Oracle

/-!
# Collecting and verifying signatures

A state is signed in a context: a game, a channel with its participants and its epoch, and a
topic. An oracle signs for those participants whose address is valid and its own; the others
are left out. A signature is mapped back to its signer by recovery, and counts for every
participant with that address.

## Main definitions

* `Context`: what a signature is bound to besides the data
* `collect`: the signatures of an oracle over some data
* `verify`: the indices of the participants who signed
* `signerIndices`: the indices of the participants with one of the given addresses

## Main results

* `collect_of_message_eq_error`, `verify_of_message_eq_error`: a bad context asks no question
* `mem_signerIndices`: which indices are found
-/

namespace StateChannel.Signing

/-- What a signature is bound to besides the data. -/
structure Context where
  gameId : String
  channel : ChannelId
  metadata : Metadata
  topic : String
  deriving DecidableEq, Repr

/-- The message that is signed for `data` in the context `c`. -/
def Context.message (c : Context) (data : Bytes) : Except SigningError String :=
  compose c.gameId c.channel.bytes c.metadata.reinit c.topic data

variable {σ : Type}

/-- A course of questions in which the context may be refused too. -/
abbrev Attempt (σ : Type) := ExceptT SigningError (StateM σ)

/-- The signature for `address` over `message`, if the address is valid and has a key. -/
def Oracle.signFor (o : Oracle σ) (message address : String) : Asking σ (Option Bytes) := do
  if ← o.validateAddress address then
    if ← o.isMine address then
      return some (← o.sign address message)
    else return none
  else return none

/-- The signatures for participants in order. The first failure ends the collection. -/
def Oracle.signAll (o : Oracle σ) (message : String) : List Participant → Asking σ (List Bytes)
  | [] => return []
  | p :: participants => do
    let own ← o.signFor message p.address
    let others ← o.signAll message participants
    return own.toList ++ others

/-- The signatures of `o` over `data`. No question is asked in a context that is refused. -/
def collect (o : Oracle σ) (c : Context) (data : Bytes) : Attempt σ SignedData :=
  match c.message data with
  | .error e => throw e
  | .ok message => do
    let signatures ← (o.signAll message c.metadata.participants).adapt SigningError.oracle
    return ⟨data, signatures⟩

/-- The addresses that made the signatures of a list over `message`. The first failure ends the
recovery. -/
def Verifier.recoverAll (v : Verifier σ) (message : String) : List Bytes → Asking σ (List String)
  | [] => return []
  | signature :: signatures => do
    let signer ← v.recoverSigner message signature
    let others ← v.recoverAll message signatures
    return signer.toList ++ others

/-- The indices of those of `participants` that have one of `addresses`, in order. -/
def signerIndices (participants : List Participant) (addresses : List String) : List Nat :=
  (participants.zipIdx.filter fun p => p.1.address ∈ addresses).map (·.2)

/-- The indices of the participants of `c` who signed the data of `signed`. -/
def verify (v : Verifier σ) (c : Context) (signed : SignedData) : Attempt σ (List Nat) :=
  match c.message signed.data with
  | .error e => throw e
  | .ok message => do
    -- An address found twice, or of a stranger, changes nothing: the indices are looked up in it.
    let addresses ← (v.recoverAll message signed.signatures).adapt SigningError.oracle
    return signerIndices c.metadata.participants addresses

theorem collect_of_message_eq_error {c : Context} {data : Bytes} {e : SigningError}
    (h : c.message data = .error e) (o : Oracle σ) (state : σ) :
    (collect o c data).run.run state = (.error e, state) := by
  rw [collect, h]
  rfl

theorem verify_of_message_eq_error {c : Context} {signed : SignedData} {e : SigningError}
    (h : c.message signed.data = .error e) (v : Verifier σ) (state : σ) :
    (verify v c signed).run.run state = (.error e, state) := by
  rw [verify, h]
  rfl

theorem mem_signerIndices {participants : List Participant} {addresses : List String} {i : Nat} :
    i ∈ signerIndices participants addresses ↔
      ∃ p, participants[i]? = some p ∧ p.address ∈ addresses := by
  simp [signerIndices, List.mem_zipIdx_iff_getElem?]

end StateChannel.Signing
