import StateChannel.Signing.Error

/-!
# Oracles

An oracle decides which addresses can sign and signs for them; a verifier tells who signed. Both may
change with every question, and may fail at every question. A failed question counts as asked.

## Main definitions

* `Asking`: a course of questions
* `Oracle`, `Verifier`: the questions
* `Query`, `Oracle.recorded`, `Verifier.recorded`: the same oracle, with a record of what it
  was asked

## Main results

* `recorded_answer`: keeping a record changes no answer
* `recorded_queries`: every question is recorded, also one that fails
-/

namespace StateChannel.Signing

/-- A course of questions to something in a state `σ`. -/
abbrev Asking (σ : Type) := ExceptT OracleError (StateM σ)

/-- Something that signs. -/
structure Oracle (σ : Type) where
  /-- Is the address well-formed? -/
  validateAddress : String → Asking σ Bool
  /-- Is there a key for the address? -/
  isMine : String → Asking σ Bool
  /-- The signature of an address over a message. -/
  sign : String → String → Asking σ Bytes

/-- Something that tells signers. -/
structure Verifier (σ : Type) where
  /-- The address that signed the message; `none` for what is no valid signature. -/
  recoverSigner : String → Bytes → Asking σ (Option String)

/-- A question. -/
inductive Query
  | validateAddress (address : String)
  | isMine (address : String)
  | sign (address message : String)
  | recoverSigner (message : String) (signature : Bytes)
  deriving DecidableEq, Repr

variable {σ α : Type}

/-- Asks, and adds `query` to a record, whatever comes back. -/
def recorded (query : Query) (ask : Asking σ α) : Asking (σ × List Query) α := fun (state, past) =>
  let (answer, state) := ask.run.run state
  (answer, state, past ++ [query])

/-- The oracle `o` with a record of its questions. -/
def Oracle.recorded (o : Oracle σ) : Oracle (σ × List Query) where
  validateAddress address := Signing.recorded (.validateAddress address) (o.validateAddress address)
  isMine address := Signing.recorded (.isMine address) (o.isMine address)
  sign address message := Signing.recorded (.sign address message) (o.sign address message)

/-- The verifier `v` with a record of its questions. -/
def Verifier.recorded (v : Verifier σ) : Verifier (σ × List Query) where
  recoverSigner message signature :=
    Signing.recorded (.recoverSigner message signature) (v.recoverSigner message signature)

theorem recorded_answer (query : Query) (ask : Asking σ α) (state : σ) (past : List Query) :
    ((recorded query ask).run.run (state, past)).1 = (ask.run.run state).1 := rfl

theorem recorded_queries (query : Query) (ask : Asking σ α) (state : σ) (past : List Query) :
    ((recorded query ask).run.run (state, past)).2.2 = past ++ [query] := rfl

end StateChannel.Signing
