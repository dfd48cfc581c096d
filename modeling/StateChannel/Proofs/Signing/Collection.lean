import Mathlib.Data.List.Forall2
import StateChannel.Proofs.Signing.Asking
import StateChannel.Proofs.Signing.Message
import StateChannel.Signing.Collection

/-!
# Collecting and verifying

Signatures carry no names: who signed is found by recovery. When recovery gives back the signer of
every signature, the indices found in the context of the signatures are those of the participants
that the oracle signed for; and since no two contexts share a message, a signature says nothing in
any other context.

## Main definitions

* `Signing.Oracle.Signs`: a signature that the oracle may give
* `Signing.Faithful`: an oracle and a verifier that fit together
* `Signing.Foreign`: recovery under another message gives none of some participants
* `Signing.Agree`: two contexts with data that nothing in a message tells apart

## Main results

* `Signing.ensures_signAll`, `Signing.ensures_recoverAll`: whose signatures are collected, and who
  is recovered from them
* `Signing.agree_of_message_eq`: contexts with one message agree
* `Signing.verify_collect`: collecting and then verifying
-/

namespace StateChannel.Signing

variable {σ τ : Type}

/-- In some state, `o` gives `signature` for `address` over `message`. -/
def Oracle.Signs (o : Oracle σ) (address message : String) (signature : Bytes) : Prop :=
  ∃ state later, (o.sign address message).run.run state = (.ok signature, later)

/-- The oracle `o` and the verifier `v` fit together: which addresses are `valid` and which are
`mine` does not change, `o` signs for the addresses that are `mine`, and recovery never fails and
gives back who signed. -/
structure Faithful (o : Oracle σ) (v : Verifier τ) (valid mine : String → Bool) : Prop where
  validateAddress : ∀ address, Ensures (o.validateAddress address) (· = valid address)
  isMine : ∀ address, Ensures (o.isMine address) (· = mine address)
  sign : ∀ address message, mine address → Ensures (o.sign address message) fun _ => True
  recoverSigner : ∀ message signature, Ensures (v.recoverSigner message signature) fun _ => True
  recoverSigner_of_signs : ∀ {address message : String} {signature : Bytes}, mine address →
    o.Signs address message signature →
      Ensures (v.recoverSigner message signature) (· = some address)

/-- From a signature that `o` made over one `message`, recovery under any `other` gives none of
`participants`. -/
def Foreign (o : Oracle σ) (v : Verifier τ) (mine : String → Bool)
    (participants : List Participant) : Prop :=
  ∀ {address message other signer : String} {signature : Bytes} {state later : τ},
    mine address → other ≠ message → o.Signs address message signature →
    (v.recoverSigner other signature).run.run state = (.ok (some signer), later) →
    ∀ p ∈ participants, p.address ≠ signer

variable {o : Oracle σ} {v : Verifier τ} {valid mine : String → Bool}

/-! ### Collecting -/

/-- The signers of a collection: the addresses of `participants` that are `valid` and `mine`, in
order. -/
def signers (valid mine : String → Bool) (participants : List Participant) : List String :=
  (participants.map Participant.address).filter fun address => valid address && mine address

theorem Oracle.ensures_sign_signs {address message : String}
    (signed : Ensures (o.sign address message) fun _ => True) :
    Ensures (o.sign address message) (o.Signs address message) := by
  intro state
  obtain ⟨signature, later, answered, _⟩ := signed state
  exact ⟨signature, later, answered, state, later, answered⟩

theorem ensures_signFor (faithful : Faithful o v valid mine) (message : String) (p : Participant) :
    Ensures (o.signFor message p.address) fun own =>
      List.Forall₂ (o.Signs · message) (signers valid mine [p]) own.toList := by
  -- Who has a bad address is not asked about any further, and a stranger is not signed for.
  unfold Oracle.signFor
  apply (faithful.validateAddress p.address).bind
  rintro _ rfl
  cases good : valid p.address with
  | false => exact .pure (by simp [signers, good])
  | true =>
    apply (faithful.isMine p.address).bind
    rintro _ rfl
    cases own : mine p.address with
    | false => exact .pure (by simp [signers, own])
    | true =>
      apply (Oracle.ensures_sign_signs (faithful.sign p.address message own)).bind
      intro signature signs
      exact .pure (by simpa [signers, good, own] using signs)

/-- One signature is collected for each of the `signers`, in order. -/
theorem ensures_signAll (faithful : Faithful o v valid mine) (message : String)
    (participants : List Participant) :
    Ensures (o.signAll message participants) fun signatures =>
      List.Forall₂ (o.Signs · message) (signers valid mine participants) signatures := by
  induction participants with
  | nil => exact .pure .nil
  | cons p participants ih =>
    apply (ensures_signFor faithful message p).bind
    intro own first
    apply ih.bind
    intro others rest
    -- The signers come in the order of the participants.
    have split : signers valid mine (p :: participants) =
        signers valid mine [p] ++ signers valid mine participants := by
      simp [signers, List.filter_cons]
      split <;> rfl
    rw [split]
    exact .pure (List.rel_append first rest)

/-! ### Recovering -/

/-- Under the `message` that was signed, the `addresses` are recovered in order. -/
theorem ensures_recoverAll (faithful : Faithful o v valid mine) {message : String}
    {addresses : List String} {signatures : List Bytes} (own : ∀ a ∈ addresses, mine a)
    (signed : List.Forall₂ (o.Signs · message) addresses signatures) :
    Ensures (v.recoverAll message signatures) (· = addresses) := by
  -- On the signatures with their signers: each question gives back its own.
  induction signed with
  | nil => exact .pure rfl
  | @cons address signature addresses signatures signs _ ih =>
    apply (faithful.recoverSigner_of_signs (own address List.mem_cons_self) signs).bind
    rintro _ rfl
    apply (ih fun a member => own a (List.mem_cons_of_mem _ member)).bind
    rintro _ rfl
    exact .pure rfl

/-- From one signature over `message`, recovery under an `other` gives no participant. -/
theorem ensures_recoverSigner_of_foreign (faithful : Faithful o v valid mine)
    {participants : List Participant} (foreign : Foreign o v mine participants)
    {address message other : String} {signature : Bytes} (own : mine address)
    (apart : other ≠ message) (signs : o.Signs address message signature) :
    Ensures (v.recoverSigner other signature) fun signer =>
      ∀ p ∈ participants, signer ≠ some p.address := by
  intro state
  obtain ⟨signer, later, answered, _⟩ := faithful.recoverSigner other signature state
  refine ⟨signer, later, answered, ?_⟩
  rintro p member rfl
  exact foreign own apart signs answered p member rfl

/-- From signatures over `message`, recovery under an `other` gives no participant. -/
theorem ensures_recoverAll_of_foreign (faithful : Faithful o v valid mine)
    {participants : List Participant} (foreign : Foreign o v mine participants)
    {message other : String} (apart : other ≠ message) {addresses : List String}
    {signatures : List Bytes} (own : ∀ a ∈ addresses, mine a)
    (signed : List.Forall₂ (o.Signs · message) addresses signatures) :
    Ensures (v.recoverAll other signatures) fun found =>
      ∀ p ∈ participants, p.address ∉ found := by
  -- Each signature leads to a stranger or to nobody, and so do all of them together.
  induction signed with
  | nil => exact .pure fun _ _ => List.not_mem_nil
  | @cons address signature addresses signatures signs _ ih =>
    have first := own address List.mem_cons_self
    apply (ensures_recoverSigner_of_foreign faithful foreign first apart signs).bind
    intro signer stranger
    apply (ih fun a member => own a (List.mem_cons_of_mem _ member)).bind
    intro others unknown
    refine .pure ?_
    intro p member found
    rcases List.mem_append.1 found with first | rest
    · exact stranger p member (Option.mem_toList.1 first)
    · exact unknown p member rest

/-! ### Contexts -/

/-- Nothing that a message shows tells `c` with `data` from `c'` with `data'`. -/
structure Agree (c c' : Context) (data data' : Bytes) : Prop where
  gameId : c.gameId = c'.gameId
  channel : c.channel = c'.channel
  reinit : c.metadata.reinit = c'.metadata.reinit
  topic : c.topic = c'.topic
  digest : Sha256.digest data = Sha256.digest data'

theorem agree_of_message_eq {c c' : Context} {data data' : Bytes} {message : String}
    (first : c.message data = .ok message) (second : c'.message data' = .ok message) :
    Agree c c' data data' := by
  obtain ⟨id, bytes, game, line, made⟩ := compose_eq_ok_iff.1 first
  obtain ⟨id', bytes', game', line', made'⟩ := compose_eq_ok_iff.1 second
  obtain rfl := ChannelId.bytes_injective bytes
  obtain rfl := ChannelId.bytes_injective bytes'
  obtain ⟨gameId, channel, reinit, topic, digest⟩ :=
    eq_of_joinLines_eq game line game' line' (made.trans made'.symm)
  exact ⟨gameId, channel, reinit, topic, digest⟩

/-! ### Both together -/

/-- Collecting in a context that is accepted succeeds with `data` and a signature for each of the
`signers`. -/
theorem ensures_collect (faithful : Faithful o v valid mine) {c : Context} {data : Bytes}
    {message : String} (accepted : c.message data = .ok message) :
    Ensures (collect o c data) fun signed => signed.data = data ∧
      List.Forall₂ (o.Signs · message) (signers valid mine c.metadata.participants)
        signed.signatures := by
  unfold collect
  rw [accepted]
  apply ((ensures_signAll faithful message c.metadata.participants).adapt _).bind
  intro signatures signed
  exact .pure ⟨rfl, signed⟩

/-- Verifying in a context that is accepted gives the `signerIndices` of the addresses that are
recovered. -/
theorem ensures_verify {c : Context} (signed : SignedData) {message : String}
    (accepted : c.message signed.data = .ok message) {post : List String → Prop}
    (recovered : Ensures (v.recoverAll message signed.signatures) post) :
    Ensures (verify v c signed) fun indices =>
      ∃ addresses, post addresses ∧ indices = signerIndices c.metadata.participants addresses := by
  unfold verify
  rw [accepted]
  apply (recovered.adapt _).bind
  intro addresses holds
  exact .pure ⟨addresses, holds, rfl⟩

theorem mem_signers {participants : List Participant} {address : String} :
    address ∈ signers valid mine participants ↔
      (∃ p ∈ participants, p.address = address) ∧ valid address ∧ mine address := by
  simp [signers]

theorem pairwise_signerIndices (participants : List Participant) (addresses : List String) :
    (signerIndices participants addresses).Pairwise (· < ·) := by
  unfold signerIndices
  have ordered : (participants.zipIdx.map Prod.snd).Pairwise (· < ·) := by
    rw [List.zipIdx_map_snd]
    exact List.pairwise_lt_range'
  exact ordered.sublist (List.filter_sublist.map _)

/-- **Collecting and then verifying.** Let `o` and `v` be `Faithful` to each other, in any states.
In a context `c` that is accepted, collecting succeeds and leaves `data` as it is. Verifying in `c`
succeeds and finds, in order, exactly the indices of the participants whose address is `valid` and
`mine`. In every other accepted context `c'` with `data'` that does not `Agree` with `c` and
`data`, and is `Foreign`, the same signatures are found to be nobody's. -/
theorem verify_collect (faithful : Faithful o v valid mine) (c : Context) (data : Bytes)
    (accepted : ∃ message, c.message data = .ok message) :
    Ensures (collect o c data) fun signed =>
      signed.data = data ∧
      Ensures (verify v c signed) (fun indices =>
        indices.Pairwise (· < ·) ∧
        ∀ i, i ∈ indices ↔ ∃ p, c.metadata.participants[i]? = some p ∧
          valid p.address ∧ mine p.address) ∧
      ∀ (c' : Context) (data' : Bytes), (∃ message, c'.message data' = .ok message) →
        ¬ Agree c c' data data' → Foreign o v mine c'.metadata.participants →
        Ensures (verify v c' ⟨data', signed.signatures⟩) (· = []) := by
  obtain ⟨message, accepted⟩ := accepted
  have own : ∀ address ∈ signers valid mine c.metadata.participants, mine address :=
    fun address member => (mem_signers.1 member).2.2
  apply (ensures_collect faithful accepted).mono
  rintro ⟨_, signatures⟩ ⟨rfl, signed⟩
  refine ⟨rfl, ?_, ?_⟩
  · apply (ensures_verify _ accepted (ensures_recoverAll faithful own signed)).mono
    rintro _ ⟨_, rfl, rfl⟩
    refine ⟨pairwise_signerIndices _ _, fun i => ?_⟩
    rw [mem_signerIndices]
    constructor
    · rintro ⟨p, present, member⟩
      exact ⟨p, present, (mem_signers.1 member).2⟩
    · rintro ⟨p, present, good⟩
      exact ⟨p, present, mem_signers.2 ⟨⟨p, List.mem_of_getElem? present, rfl⟩, good⟩⟩
  · rintro c' data' ⟨other, acceptedToo⟩ differ foreign
    -- A message binds its context, so this one is another message.
    have apart : other ≠ message := by
      rintro rfl
      exact differ (agree_of_message_eq accepted acceptedToo)
    have stranger := ensures_recoverAll_of_foreign faithful foreign apart own signed
    refine (ensures_verify ⟨data', signatures⟩ acceptedToo stranger).mono ?_
    rintro _ ⟨found, unknown, rfl⟩
    apply List.eq_nil_iff_forall_not_mem.2
    intro i member
    obtain ⟨p, present, recovered⟩ := mem_signerIndices.1 member
    exact unknown p (List.mem_of_getElem? present) recovered

/-! Two keys, and signatures that name their key and repeat the message. -/

/-- Signs for two addresses, and counts what it has signed. -/
def notary : Oracle Nat where
  validateAddress address := return address != ""
  isMine address := return address == "alice" || address == "carol"
  sign address message := do
    modify (· + 1)
    if address = "alice" then return 1 :: Bytes.ofText message
    else if address = "carol" then return 2 :: Bytes.ofText message
    else throw (.unknownAddress address)

/-- The address that a signature of `notary` names, if it repeats `message`. -/
def notarySigner? (message : String) : Bytes → Option String
  | 1 :: body => if body = Bytes.ofText message then some "alice" else none
  | 2 :: body => if body = Bytes.ofText message then some "carol" else none
  | _ => none

/-- Recovers the signers of the signatures of `notary`. -/
def notaryVerifier : Verifier Nat where
  recoverSigner message signature := do
    modify (· + 1)
    return notarySigner? message signature

theorem signs_notary {address message : String} {signature : Bytes}
    (own : address == "alice" || address == "carol")
    (signs : notary.Signs address message signature) :
    address = "alice" ∧ signature = 1 :: Bytes.ofText message ∨
      address = "carol" ∧ signature = 2 :: Bytes.ofText message := by
  obtain ⟨state, later, answered⟩ := signs
  rcases Bool.or_eq_true_iff.1 own with first | second
  · obtain rfl := eq_of_beq first
    have same : (.ok (1 :: Bytes.ofText message), state + 1) = (Except.ok signature, later) :=
      answered
    exact .inl ⟨rfl, (Except.ok.inj (Prod.mk.inj same).1).symm⟩
  · obtain rfl := eq_of_beq second
    have same : (.ok (2 :: Bytes.ofText message), state + 1) = (Except.ok signature, later) :=
      answered
    exact .inr ⟨rfl, (Except.ok.inj (Prod.mk.inj same).1).symm⟩

theorem faithful_notary : Faithful notary notaryVerifier (fun address => address != "")
    (fun address => address == "alice" || address == "carol") where
  validateAddress address state := ⟨_, state, rfl, rfl⟩
  isMine address state := ⟨_, state, rfl, rfl⟩
  sign address message own state := by
    rcases Bool.or_eq_true_iff.1 own with first | second
    · obtain rfl := eq_of_beq first
      exact ⟨1 :: Bytes.ofText message, state + 1, rfl, trivial⟩
    · obtain rfl := eq_of_beq second
      exact ⟨2 :: Bytes.ofText message, state + 1, rfl, trivial⟩
  recoverSigner message signature state := ⟨_, state + 1, rfl, trivial⟩
  recoverSigner_of_signs own signs state := by
    rcases signs_notary own signs with ⟨rfl, rfl⟩ | ⟨rfl, rfl⟩
    · exact ⟨_, state + 1, rfl, if_pos rfl⟩
    · exact ⟨_, state + 1, rfl, if_pos rfl⟩

theorem foreign_notary (participants : List Participant) : Foreign notary notaryVerifier
    (fun address => address == "alice" || address == "carol") participants := by
  intro address message other signer signature state later own apart signs answered
  have texts : Bytes.ofText message ≠ Bytes.ofText other :=
    fun same => apart (Bytes.ofText_injective same).symm
  have recovered : notarySigner? other signature = some signer :=
    Except.ok.inj (Prod.mk.inj answered).1
  rcases signs_notary own signs with ⟨rfl, rfl⟩ | ⟨rfl, rfl⟩ <;>
    simp [notarySigner?, texts] at recovered

/-- Among the participants are a stranger, a bad address, and one that occurs twice. -/
def chess : Context where
  gameId := "chess"
  channel := ⟨List.replicate 32 0, rfl⟩
  metadata :=
    { participants := [⟨"Alice", "alice"⟩, ⟨"Bob", "bob"⟩, ⟨"Nobody", ""⟩, ⟨"Carol", "carol"⟩,
        ⟨"Alice again", "alice"⟩]
      reinit := [7] }
  topic := "state"

/-- The context `chess` in its next epoch. -/
def rematch : Context := { chess with metadata := { chess.metadata with reinit := [8] } }

/-- The case of `verify_collect` for `notary`: the participants for whom it signs are found at
their indices in `chess`, and in `rematch` none is. -/
theorem verify_collect_notary :
    Ensures (collect notary chess [1]) fun signed =>
      signed.data = [1] ∧
      Ensures (verify notaryVerifier chess signed)
        (fun indices => ∀ i, i ∈ indices ↔ i = 0 ∨ i = 3 ∨ i = 4) ∧
      Ensures (verify notaryVerifier rematch ⟨[1], signed.signatures⟩) (· = []) := by
  have here : chess.message [1] = .ok _ :=
    compose_eq_ok (by decide) (by decide) chess.channel [7] [1]
  have there : rematch.message [1] = .ok _ :=
    compose_eq_ok (by decide) (by decide) chess.channel [8] [1]
  refine (verify_collect faithful_notary chess [1] ⟨_, here⟩).mono ?_
  rintro signed ⟨same, found, nobody⟩
  refine ⟨same, found.mono ?_, ?_⟩
  · rintro indices ⟨_, which⟩ i
    rw [which]
    -- Three of the five participants have been signed for.
    rcases i with _ | _ | _ | _ | _ | i <;> simp [chess]
  · refine nobody rematch [1] ⟨_, there⟩ ?_ (foreign_notary _)
    intro agree
    exact absurd agree.reinit (by decide)

end StateChannel.Signing
