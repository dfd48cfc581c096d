import Mathlib.Data.List.Sort
import StateChannel.Proofs.Signing.Collection

/-!
# Merged signatures

Participants exchange what they have signed and put the lists together, in any order and with
repetitions. For a verifier that answers by a function of message and signature this does no harm:
the first signature that cannot be recovered decides when there is one, and otherwise only which
addresses occur counts, so that a merged list says what its parts say together.

## Main definitions

* `Signing.Verifier.Recovers`: the verifier answers by a function
* `Signing.verdict`: what a verification comes to
* `Signing.Idle`: a signature that stands for none of some participants

## Main results

* `Signing.verdict_eq_error_iff`, `Signing.verdict_eq_ok_iff`: when a verification fails, and what
  it finds otherwise
* `Signing.verdict_append`, `Signing.verdict_eq_ok_congr`: two lists together, and lists that differ
  in what does not count
* `Signing.verify_merged`: all of this
-/

namespace StateChannel.Signing

variable {σ : Type}

/-- In any state, `v` answers by the function `recover` of message and signature. -/
def Verifier.Recovers (v : Verifier σ)
    (recover : String → Bytes → Except OracleError (Option String)) : Prop :=
  ∀ message signature state,
    ((v.recoverSigner message signature).run.run state).1 = recover message signature

/-- What verifying `signatures` over `data` in the context `c` comes to, begun in `state`. -/
def verdict (v : Verifier σ) (c : Context) (data : Bytes) (signatures : List Bytes) (state : σ) :
    Except SigningError (List Nat) :=
  ((verify v c ⟨data, signatures⟩).run.run state).1

/-! ### Answers -/

/-- The failure of a recovery. -/
def failure? : Except OracleError (Option String) → Option OracleError
  | .error cause => some cause
  | .ok _ => none

/-- The address that a recovery gives. -/
def signer? : Except OracleError (Option String) → Option String
  | .error _ => none
  | .ok signer => signer

section Answers

variable {answer : Except OracleError (Option String)} {cause : OracleError} {address : String}

theorem failure?_eq_some_iff : failure? answer = some cause ↔ answer = .error cause := by
  cases answer <;> simp [failure?]

theorem failure?_eq_none_iff : failure? answer = none ↔ ∃ signer, answer = .ok signer := by
  cases answer <;> simp [failure?]

theorem signer?_eq_some_iff : signer? answer = some address ↔ answer = .ok (some address) := by
  cases answer <;> simp [signer?]

end Answers

/-- The failure of the first of `signatures` for which `recover` fails. -/
def firstFailure? (recover : Bytes → Except OracleError (Option String))
    (signatures : List Bytes) : Option OracleError :=
  signatures.findSome? fun signature => failure? (recover signature)

/-- The addresses that `recover` gives for `signatures`. -/
def signersOf (recover : Bytes → Except OracleError (Option String)) (signatures : List Bytes) :
    List String :=
  signatures.filterMap fun signature => signer? (recover signature)

/-- The `answer` names none of `participants`: recovery did not fail, and gave no address or that
of a stranger. -/
def Idle (participants : List Participant) (answer : Except OracleError (Option String)) : Prop :=
  ∃ signer, answer = .ok signer ∧ ∀ p ∈ participants, signer ≠ some p.address

section Answers

variable {recover : Bytes → Except OracleError (Option String)} {signatures : List Bytes}
  {participants : List Participant}

theorem Idle.ne {answer : Except OracleError (Option String)} {p : Participant}
    (idle : Idle participants answer) (member : p ∈ participants) :
    answer ≠ .ok (some p.address) := by
  obtain ⟨signer, rfl, stranger⟩ := idle
  exact fun same => stranger p member (Except.ok.inj same)

theorem firstFailure?_eq_none_iff : firstFailure? recover signatures = none ↔
    ∀ signature ∈ signatures, ∃ signer, recover signature = .ok signer := by
  simp only [firstFailure?, List.findSome?_eq_none_iff, failure?_eq_none_iff]

theorem firstFailure?_eq_some_iff {cause : OracleError} :
    firstFailure? recover signatures = some cause ↔
      ∃ before signature after, signatures = before ++ signature :: after ∧
        recover signature = .error cause ∧
        ∀ earlier ∈ before, ∃ signer, recover earlier = .ok signer := by
  simp only [firstFailure?, List.findSome?_eq_some_iff, failure?_eq_some_iff,
    failure?_eq_none_iff]

theorem exists_firstFailure?_iff : (∃ cause, firstFailure? recover signatures = some cause) ↔
    ∃ signature ∈ signatures, ∃ cause, recover signature = .error cause := by
  simp only [firstFailure?, ← Option.isSome_iff_exists, List.findSome?_isSome_iff]
  simp only [Option.isSome_iff_exists, failure?_eq_some_iff]

theorem mem_signersOf {address : String} : address ∈ signersOf recover signatures ↔
    ∃ signature ∈ signatures, recover signature = .ok (some address) := by
  simp only [signersOf, List.mem_filterMap, signer?_eq_some_iff]

/-- A `signature` that is also among `before`, or whose recovery is `Idle`, is not the first to
fail, and can be left out. -/
theorem firstFailure?_append_cons {before after : List Bytes} {signature : Bytes}
    (known : signature ∈ before ∨ Idle participants (recover signature)) :
    firstFailure? recover (before ++ signature :: after) =
      firstFailure? recover (before ++ after) := by
  simp only [firstFailure?, List.findSome?_append, List.findSome?_cons]
  -- A failure of this signature is not the first, for it is a repetition and has failed before.
  cases failed : failure? (recover signature) with
  | none => rfl
  | some cause =>
    have broken := failure?_eq_some_iff.1 failed
    obtain ⟨other, first⟩ : ∃ other,
        before.findSome? (fun signature => failure? (recover signature)) = some other := by
      refine exists_firstFailure?_iff.2 ?_
      rcases known with repeated | ⟨signer, given, -⟩
      · exact ⟨signature, repeated, cause, broken⟩
      · exact nomatch broken.symm.trans given
    rw [first]
    rfl

theorem mem_signersOf_append_cons {before after : List Bytes} {signature : Bytes}
    (known : signature ∈ before ∨ Idle participants (recover signature)) {p : Participant}
    (member : p ∈ participants) :
    p.address ∈ signersOf recover (before ++ signature :: after) ↔
      p.address ∈ signersOf recover (before ++ after) := by
  simp only [mem_signersOf, List.mem_append, List.mem_cons]
  constructor
  · rintro ⟨other, first | rfl | last, given⟩
    · exact ⟨other, .inl first, given⟩
    · rcases known with repeated | idle
      · exact ⟨other, .inl repeated, given⟩
      · exact absurd given (idle.ne member)
    · exact ⟨other, .inr last, given⟩
  · rintro ⟨other, first | last, given⟩
    · exact ⟨other, .inl first, given⟩
    · exact ⟨other, .inr (.inr last), given⟩

end Answers

/-- Only the addresses of `participants` count in `signerIndices`. -/
theorem signerIndices_congr {participants : List Participant} {addresses others : List String}
    (same : ∀ p ∈ participants, p.address ∈ addresses ↔ p.address ∈ others) :
    signerIndices participants addresses = signerIndices participants others := by
  unfold signerIndices
  congr 1
  apply List.filter_congr
  intro p member
  exact decide_eq_decide.2 (same p.1 (List.fst_mem_of_mem_zipIdx member))

/-! ### Verdicts -/

section Verdicts

variable {v : Verifier σ} {recover : String → Bytes → Except OracleError (Option String)}
  {c : Context} {data : Bytes} {message : String}

/-- `recoverAll` fails with the first failure of `recover`, and otherwise gives `signersOf`. -/
theorem recoverAll_answer (recovers : v.Recovers recover) (message : String)
    (signatures : List Bytes) (state : σ) :
    ((v.recoverAll message signatures).run.run state).1 =
      match firstFailure? (recover message) signatures with
      | some cause => .error cause
      | none => .ok (signersOf (recover message) signatures) := by
  unfold firstFailure? signersOf
  -- Whatever state a recovery leaves behind, the rest of the list is answered alike.
  induction signatures generalizing state with
  | nil => rfl
  | cons signature signatures ih =>
    obtain ⟨later, answered⟩ : ∃ later, (v.recoverSigner message signature).run.run state =
        (recover message signature, later) :=
      ⟨_, Prod.ext (recovers message signature state) rfl⟩
    unfold Verifier.recoverAll
    cases answer : recover message signature with
    | error cause =>
      rw [answer] at answered
      rw [run_bind_of_error answered, List.findSome?_cons, answer]
      rfl
    | ok signer =>
      rw [answer] at answered
      rw [run_bind_of_ok answered, run_bind_pure, ih later, List.findSome?_cons, answer]
      cases signatures.findSome? fun signature => failure? (recover message signature) with
      | some cause => rfl
      | none => cases signer <;> simp [failure?, signer?, answer, Except.map]

theorem verdict_eq (recovers : v.Recovers recover) (accepted : c.message data = .ok message)
    (signatures : List Bytes) (state : σ) :
    verdict v c data signatures state =
      match firstFailure? (recover message) signatures with
      | some cause => .error (.oracle cause)
      | none => .ok (signerIndices c.metadata.participants
          (signersOf (recover message) signatures)) := by
  unfold verdict verify
  simp only [accepted]
  rw [run_bind_pure, run_adapt, recoverAll_answer recovers]
  cases firstFailure? (recover message) signatures <;> rfl

variable {signatures : List Bytes} {state : σ}

theorem verdict_eq_error_iff (recovers : v.Recovers recover)
    (accepted : c.message data = .ok message) {failure : SigningError} :
    verdict v c data signatures state = .error failure ↔
      ∃ cause, firstFailure? (recover message) signatures = some cause ∧
        failure = .oracle cause := by
  rw [verdict_eq recovers accepted]
  cases firstFailure? (recover message) signatures <;> simp [eq_comm]

/-- The `verdict` is `.ok indices` exactly when no recovery fails, and `indices` are, in order,
those of the participants whose address is recovered. -/
theorem verdict_eq_ok_iff (recovers : v.Recovers recover)
    (accepted : c.message data = .ok message) {indices : List Nat} :
    verdict v c data signatures state = .ok indices ↔
      (∀ signature ∈ signatures, ∃ signer, recover message signature = .ok signer) ∧
      indices.Pairwise (· < ·) ∧
      ∀ i, i ∈ indices ↔ ∃ p, c.metadata.participants[i]? = some p ∧
        ∃ signature ∈ signatures, recover message signature = .ok (some p.address) := by
  have found (i : Nat) : i ∈ signerIndices c.metadata.participants
      (signersOf (recover message) signatures) ↔ ∃ p, c.metadata.participants[i]? = some p ∧
        ∃ signature ∈ signatures, recover message signature = .ok (some p.address) := by
    simp only [mem_signerIndices, mem_signersOf]
  rw [verdict_eq recovers accepted, ← firstFailure?_eq_none_iff]
  cases firstFailure? (recover message) signatures with
  | some cause => simp
  | none =>
    simp only [Except.ok.injEq, true_and]
    constructor
    · rintro rfl
      exact ⟨pairwise_signerIndices _ _, found⟩
    · -- Indices in ascending order are determined by which they are.
      rintro ⟨ordered, which⟩
      exact (pairwise_signerIndices _ _).eq_of_mem_iff ordered fun i =>
        (found i).trans (which i).symm

theorem exists_verdict (recovers : v.Recovers recover) (accepted : c.message data = .ok message)
    (recovered : ∀ signature ∈ signatures, ∃ signer, recover message signature = .ok signer)
    (state : σ) : ∃ indices, verdict v c data signatures state = .ok indices := by
  rw [verdict_eq recovers accepted, firstFailure?_eq_none_iff.2 recovered]
  exact ⟨_, rfl⟩

/-- The `verdict` on two lists together finds what the verdicts on either find. -/
theorem verdict_append (recovers : v.Recovers recover) (accepted : c.message data = .ok message)
    {others : List Bytes} {state₁ state₂ : σ} {indices₁ indices₂ : List Nat}
    (first : verdict v c data signatures state₁ = .ok indices₁)
    (second : verdict v c data others state₂ = .ok indices₂) (state : σ) :
    ∃ indices, verdict v c data (signatures ++ others) state = .ok indices ∧
      ∀ i, i ∈ indices ↔ i ∈ indices₁ ∨ i ∈ indices₂ := by
  obtain ⟨fine₁, -, found₁⟩ := (verdict_eq_ok_iff recovers accepted).1 first
  obtain ⟨fine₂, -, found₂⟩ := (verdict_eq_ok_iff recovers accepted).1 second
  have fine : ∀ signature ∈ signatures ++ others,
      ∃ signer, recover message signature = .ok signer := by
    intro signature member
    exact (List.mem_append.1 member).elim (fine₁ signature) (fine₂ signature)
  obtain ⟨indices, given⟩ := exists_verdict recovers accepted fine state
  refine ⟨indices, given, fun i => ?_⟩
  rw [((verdict_eq_ok_iff recovers accepted).1 given).2.2, found₁, found₂]
  simp only [List.mem_append, or_and_right, exists_or, and_or_left]

/-- If `more` has the `signatures` and others that are `Idle`, in any order and with repetitions,
it has the same `verdict` of indices. -/
theorem verdict_eq_ok_congr (recovers : v.Recovers recover)
    (accepted : c.message data = .ok message) {more : List Bytes}
    (among : ∀ signature ∈ signatures, signature ∈ more)
    (rest : ∀ signature ∈ more,
      signature ∈ signatures ∨ Idle c.metadata.participants (recover message signature))
    (state' : σ) (indices : List Nat) :
    verdict v c data more state' = .ok indices ↔
      verdict v c data signatures state = .ok indices := by
  -- Whatever the other list has in addition names no participant and does not fail.
  have fine : (∀ signature ∈ more, ∃ signer, recover message signature = .ok signer) ↔
      ∀ signature ∈ signatures, ∃ signer, recover message signature = .ok signer := by
    constructor
    · intro fine signature member
      exact fine signature (among signature member)
    · intro fine signature member
      rcases rest signature member with old | ⟨signer, given, -⟩
      · exact fine signature old
      · exact ⟨signer, given⟩
  have signed {p : Participant} (member : p ∈ c.metadata.participants) :
      (∃ signature ∈ more, recover message signature = .ok (some p.address)) ↔
        ∃ signature ∈ signatures, recover message signature = .ok (some p.address) := by
    constructor
    · rintro ⟨signature, inside, given⟩
      rcases rest signature inside with old | idle
      · exact ⟨signature, old, given⟩
      · exact absurd given (idle.ne member)
    · rintro ⟨signature, inside, given⟩
      exact ⟨signature, among signature inside, given⟩
  rw [verdict_eq_ok_iff recovers accepted, verdict_eq_ok_iff recovers accepted, fine]
  refine and_congr_right fun _ => and_congr_right fun _ => forall_congr' fun i => ?_
  refine iff_congr Iff.rfl (exists_congr fun p => and_congr_right fun present => ?_)
  exact signed (List.mem_of_getElem? present)

/-- A `signature` that is also among `before`, or is `Idle`, changes nothing in the `verdict`, not
even a failure. -/
theorem verdict_append_cons (recovers : v.Recovers recover)
    (accepted : c.message data = .ok message) {before after : List Bytes} {signature : Bytes}
    (known : signature ∈ before ∨ Idle c.metadata.participants (recover message signature))
    (state' : σ) :
    verdict v c data (before ++ signature :: after) state =
      verdict v c data (before ++ after) state' := by
  rw [verdict_eq recovers accepted, verdict_eq recovers accepted, firstFailure?_append_cons known,
    signerIndices_congr fun p member => mem_signersOf_append_cons known member]

/-- **Merged lists of signatures.** Let `v` answer by a function `recover`, in any state, and let
`c` accept `data` with `message`. The `verdict` fails exactly when some recovery does, and then
with the failure of the first listed signature that cannot be recovered. Otherwise it finds, in
order, the indices of all participants whose address is recovered from some listed signature. So
the `verdict` on `first ++ second` is the union of those on each. A list `more` of the signatures
of `few` in any order, with repetitions, or with others that are `Idle`, comes to the same indices
if it does not fail; and one such signature more leaves a failure what it is, too. -/
theorem verify_merged (recovers : v.Recovers recover) (accepted : c.message data = .ok message) :
    (∀ signatures state,
      ((∃ failure, verdict v c data signatures state = .error failure) ↔
        ∃ signature ∈ signatures, ∃ cause, recover message signature = .error cause) ∧
      (∀ failure, verdict v c data signatures state = .error failure ↔
        ∃ before signature after cause, signatures = before ++ signature :: after ∧
          (∀ earlier ∈ before, ∃ signer, recover message earlier = .ok signer) ∧
          recover message signature = .error cause ∧ failure = .oracle cause) ∧
      ∀ indices, verdict v c data signatures state = .ok indices ↔
        (∀ signature ∈ signatures, ∃ signer, recover message signature = .ok signer) ∧
        indices.Pairwise (· < ·) ∧
        ∀ i, i ∈ indices ↔ ∃ p, c.metadata.participants[i]? = some p ∧
          ∃ signature ∈ signatures, recover message signature = .ok (some p.address)) ∧
    (∀ first second state₁ state₂ state indices₁ indices₂,
      verdict v c data first state₁ = .ok indices₁ →
      verdict v c data second state₂ = .ok indices₂ →
      ∃ indices, verdict v c data (first ++ second) state = .ok indices ∧
        ∀ i, i ∈ indices ↔ i ∈ indices₁ ∨ i ∈ indices₂) ∧
    (∀ few more, (∀ signature ∈ few, signature ∈ more) →
      (∀ signature ∈ more,
        signature ∈ few ∨ Idle c.metadata.participants (recover message signature)) →
      ∀ state state' indices, verdict v c data more state' = .ok indices ↔
        verdict v c data few state = .ok indices) ∧
    ∀ before signature after,
      signature ∈ before ∨ Idle c.metadata.participants (recover message signature) →
      ∀ state state', verdict v c data (before ++ signature :: after) state =
        verdict v c data (before ++ after) state' := by
  -- Failing, the first failure, and the indices; then two lists, a longer list, and one signature.
  refine ⟨fun signatures state => ⟨?_, fun failure => ?_, fun indices => ?_⟩, ?_, ?_, ?_⟩
  · simp only [verdict_eq_error_iff recovers accepted]
    rw [← exists_firstFailure?_iff]
    constructor
    · rintro ⟨_, cause, found, -⟩
      exact ⟨cause, found⟩
    · rintro ⟨cause, found⟩
      exact ⟨_, cause, found, rfl⟩
  · rw [verdict_eq_error_iff recovers accepted]
    simp only [firstFailure?_eq_some_iff]
    constructor
    · rintro ⟨cause, ⟨before, signature, after, split, failed, fine⟩, rfl⟩
      exact ⟨before, signature, after, cause, split, fine, failed, rfl⟩
    · rintro ⟨before, signature, after, cause, split, fine, failed, rfl⟩
      exact ⟨cause, ⟨before, signature, after, split, failed, fine⟩, rfl⟩
  · exact verdict_eq_ok_iff recovers accepted
  · intro first second state₁ state₂ state indices₁ indices₂ given₁ given₂
    exact verdict_append recovers accepted given₁ given₂ state
  · intro few more among rest state state' indices
    exact verdict_eq_ok_congr recovers accepted among rest state' indices
  · intro before signature after known state state'
    exact verdict_append_cons recovers accepted known state'

end Verdicts

/-! A verifier of the notary's signatures for which an empty one is a failure. -/

/-- The signer that a signature of `notary` names; an empty signature is a failure. -/
def strictRecovery (message : String) (signature : Bytes) : Except OracleError (Option String) :=
  if signature = [] then .error (.invalidResponse "empty signature")
  else .ok (notarySigner? message signature)

/-- Answers by `strictRecovery`, and counts how often it was asked. -/
def strictVerifier : Verifier Nat where
  recoverSigner message signature := ExceptT.mk do
    modify (· + 1)
    return strictRecovery message signature

theorem recovers_strict : strictVerifier.Recovers strictRecovery := fun _ _ _ => rfl

theorem strictRecovery_alice (message : String) :
    strictRecovery message (1 :: Bytes.ofText message) = .ok (some "alice") := by
  simp [strictRecovery, notarySigner?]

theorem strictRecovery_carol (message : String) :
    strictRecovery message (2 :: Bytes.ofText message) = .ok (some "carol") := by
  simp [strictRecovery, notarySigner?]

theorem strictRecovery_nobody (message : String) : strictRecovery message [9] = .ok none := rfl

/-- The case of `verify_merged` for `strictVerifier`: Alice's signature counts for both of her
places; together with Carol's, given twice, and one that nobody made, it finds all three; and where
an empty one is listed nothing is found. -/
theorem verify_merged_strict : ∃ message, chess.message [1] = .ok message ∧
    strictVerifier.Recovers strictRecovery ∧ ∀ state,
      verdict strictVerifier chess [1] [1 :: Bytes.ofText message] state = .ok [0, 4] ∧
      verdict strictVerifier chess [1] [2 :: Bytes.ofText message, 1 :: Bytes.ofText message]
        state = .ok [0, 3, 4] ∧
      verdict strictVerifier chess [1]
        [2 :: Bytes.ofText message, [9], 2 :: Bytes.ofText message, 1 :: Bytes.ofText message]
        state = .ok [0, 3, 4] ∧
      verdict strictVerifier chess [1] [2 :: Bytes.ofText message, [], [9]] state =
        .error (.oracle (.invalidResponse "empty signature")) := by
  have accepted : chess.message [1] = .ok _ :=
    compose_eq_ok (by decide) (by decide) chess.channel [7] [1]
  refine ⟨_, accepted, recovers_strict, fun state => ?_⟩
  generalize joinLines _ = message at accepted ⊢
  obtain ⟨each, -, same, -⟩ := verify_merged recovers_strict accepted
  have both : verdict strictVerifier chess [1]
      [2 :: Bytes.ofText message, 1 :: Bytes.ofText message] state = .ok [0, 3, 4] := by
    refine ((each _ state).2.2 _).2 ⟨?_, by decide, fun i => ?_⟩
    · simp [strictRecovery_alice, strictRecovery_carol]
    · rcases i with _ | _ | _ | _ | _ | i <;>
        simp [chess, strictRecovery_alice, strictRecovery_carol]
  refine ⟨?_, both, ?_, ?_⟩
  · refine ((each _ state).2.2 _).2 ⟨?_, by decide, fun i => ?_⟩
    · simp [strictRecovery_alice]
    · rcases i with _ | _ | _ | _ | _ | i <;> simp [chess, strictRecovery_alice]
  · refine
      (same [2 :: Bytes.ofText message, 1 :: Bytes.ofText message] _ ?_ ?_ state state _).2 both
    · simp
    · simp [strictRecovery_nobody, Idle]
  · refine ((each _ state).2.1 _).2
      ⟨[2 :: Bytes.ofText message], [], [[9]], _, rfl, ?_, rfl, rfl⟩
    simp [strictRecovery_carol]

end StateChannel.Signing
