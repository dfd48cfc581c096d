import Mathlib.Data.List.Forall2
import StateChannel.Proofs.Signing.Collection

/-!
# What an oracle is asked

An oracle may change with every question, and any question may fail, so that nothing can be said
of a collection but what follows from the answers that were given. They decide all of it: which
question comes next, where the collection ends, and what comes of it.

## Main definitions

* `Signing.Asked`: a question with its answer
* `Signing.Oracle.Replies`: an oracle gives the answers of a transcript, one after the other
* `Signing.Deals`: the questions about one address
* `Signing.Collects`: the questions of a whole collection
* `Signing.Oracle.Course`: a course of questions with its transcript

## Main results

* `Signing.Oracle.exists_deals`, `Signing.Oracle.exists_collects`: what is asked about one
  participant, and about all of them
* `Signing.collect_transcript`: what a collection asks, and what it gives
-/

namespace StateChannel.Signing

variable {σ α β : Type}

/-- A question with its answer. -/
inductive Asked
  | validateAddress (address : String) (answer : Except OracleError Bool)
  | isMine (address : String) (answer : Except OracleError Bool)
  | sign (address message : String) (answer : Except OracleError Bytes)

/-- The question alone. -/
def Asked.query : Asked → Query
  | .validateAddress address _ => .validateAddress address
  | .isMine address _ => .isMine address
  | .sign address message _ => .sign address message

/-- Asked in `state`, `o` gives the answer and goes over into the state `later`. -/
def Oracle.Gives (o : Oracle σ) (state later : σ) : Asked → Prop
  | .validateAddress address answer => (o.validateAddress address).run.run state = (answer, later)
  | .isMine address answer => (o.isMine address).run.run state = (answer, later)
  | .sign address message answer => (o.sign address message).run.run state = (answer, later)

/-- Asked one question after the other from a state on, `o` gives the answers of the transcript and
ends in the last state. -/
def Oracle.Replies (o : Oracle σ) : σ → List Asked → σ → Prop
  | state, [], last => state = last
  | state, asked :: transcript, last =>
    ∃ later, o.Gives state later asked ∧ o.Replies later transcript last

theorem Oracle.Replies.append {o : Oracle σ} {state middle last : σ} {transcript rest : List Asked}
    (first : o.Replies state transcript middle) (second : o.Replies middle rest last) :
    o.Replies state (transcript ++ rest) last := by
  induction transcript generalizing state with
  | nil =>
    obtain rfl : state = middle := first
    exact second
  | cons asked transcript ih =>
    obtain ⟨later, given, others⟩ := first
    exact ⟨later, given, ih others⟩

/-! ### What is asked -/

/-- The questions about `address`, in order and with their answers, and what comes of them: a
signature over `message`, nothing for an address that is invalid or not the oracle's own, or the
failure of the last question. -/
inductive Deals (message address : String) : List Asked → Except OracleError (Option Bytes) → Prop
  | invalid : Deals message address [.validateAddress address (.ok false)] (.ok none)
  | foreign : Deals message address
      [.validateAddress address (.ok true), .isMine address (.ok false)] (.ok none)
  | signed (signature : Bytes) : Deals message address
      [.validateAddress address (.ok true), .isMine address (.ok true),
        .sign address message (.ok signature)] (.ok (some signature))
  | validateAddress_fails (cause : OracleError) : Deals message address
      [.validateAddress address (.error cause)] (.error cause)
  | isMine_fails (cause : OracleError) : Deals message address
      [.validateAddress address (.ok true), .isMine address (.error cause)] (.error cause)
  | sign_fails (cause : OracleError) : Deals message address
      [.validateAddress address (.ok true), .isMine address (.ok true),
        .sign address message (.error cause)] (.error cause)

/-- The questions about `participants` in order, none of which fails, with what comes of each. -/
def DealsWith (message : String) (participants : List Participant)
    (deals : List (List Asked × Option Bytes)) : Prop :=
  List.Forall₂ (fun p deal => Deals message p.address deal.1 (.ok deal.2)) participants deals

/-- The questions of a collection. Either each of `participants` is dealt with in turn, and the
signatures are those that were given, in order; or those `before` some `p` are, then a question
about `p` fails, and with this question all ends. -/
def Collects (message : String) (participants : List Participant) (transcript : List Asked) :
    Except OracleError (List Bytes) → Prop
  | .ok signatures => ∃ deals, DealsWith message participants deals ∧
      transcript = deals.flatMap Prod.fst ∧ signatures = deals.filterMap Prod.snd
  | .error cause => ∃ before p after deals last, participants = before ++ p :: after ∧
      DealsWith message before deals ∧ Deals message p.address last (.error cause) ∧
      transcript = deals.flatMap Prod.fst ++ last

/-! ### Courses of questions -/

/-- The questions of `ask` to `o`, and those of `noted` to the oracle with a record: both come to
`answer`, and the record grows by the questions of `transcript` and no others. -/
structure Oracle.Course (o : Oracle σ) (ask : Asking σ α) (noted : Asking (σ × List Query) α)
    (state : σ) (transcript : List Asked) (answer : Except OracleError α) (later : σ) : Prop where
  replies : o.Replies state transcript later
  answered : ask.run.run state = (answer, later)
  noted : ∀ past, noted.run.run (state, past) =
    (answer, later, past ++ transcript.map Asked.query)

namespace Oracle

variable {o : Oracle σ} {ask : Asking σ α} {noted : Asking (σ × List Query) α}
  {state later last : σ} {transcript rest : List Asked} {next : α → Asking σ β}
  {nextNoted : α → Asking (σ × List Query) β}

theorem Course.pure (a : α) : o.Course (Pure.pure a) (Pure.pure a) state [] (.ok a) state where
  replies := rfl
  answered := rfl
  noted past := by rw [List.map_nil, List.append_nil]; rfl

/-- What follows a course that succeeds is asked after it. -/
theorem Course.bind {a : α} {answer : Except OracleError β}
    (first : o.Course ask noted state transcript (.ok a) later)
    (second : o.Course (next a) (nextNoted a) later rest answer last) :
    o.Course (ask >>= next) (noted >>= nextNoted) state (transcript ++ rest) answer last where
  replies := first.replies.append second.replies
  answered := (run_bind_of_ok first.answered).trans second.answered
  noted past := by
    rw [run_bind_of_ok (first.noted past), second.noted, List.map_append, List.append_assoc]

/-- Applying `f` to the result of a course asks nothing more. -/
theorem Course.map {a : α} (f : α → β) (first : o.Course ask noted state transcript (.ok a) later) :
    o.Course (ask >>= fun a => Pure.pure (f a)) (noted >>= fun a => Pure.pure (f a)) state
      transcript (.ok (f a)) later where
  replies := first.replies
  answered := run_bind_of_ok first.answered
  noted past := run_bind_of_ok (first.noted past)

/-- Nothing is asked after a course that fails. -/
theorem Course.bind_error {cause : OracleError}
    (first : o.Course ask noted state transcript (.error cause) later) :
    o.Course (ask >>= next) (noted >>= nextNoted) state transcript (.error cause) later where
  replies := first.replies
  answered := run_bind_of_error first.answered
  noted past := run_bind_of_error (first.noted past)

theorem course_validateAddress (o : Oracle σ) (address : String) (state : σ) :
    ∃ answer later, o.Course (o.validateAddress address) (o.recorded.validateAddress address) state
      [.validateAddress address answer] answer later :=
  ⟨_, _, ⟨_, rfl, rfl⟩, rfl, fun _ => rfl⟩

theorem course_isMine (o : Oracle σ) (address : String) (state : σ) :
    ∃ answer later, o.Course (o.isMine address) (o.recorded.isMine address) state
      [.isMine address answer] answer later :=
  ⟨_, _, ⟨_, rfl, rfl⟩, rfl, fun _ => rfl⟩

theorem course_sign (o : Oracle σ) (address message : String) (state : σ) :
    ∃ answer later, o.Course (o.sign address message) (o.recorded.sign address message) state
      [.sign address message answer] answer later :=
  ⟨_, _, ⟨_, rfl, rfl⟩, rfl, fun _ => rfl⟩

/-- Signing for `address` has a course, whose transcript `Deals` with it. -/
theorem exists_deals (o : Oracle σ) (message address : String) (state : σ) :
    ∃ transcript answer later, Deals message address transcript answer ∧
      o.Course (o.signFor message address) (o.recorded.signFor message address) state transcript
        answer later := by
  -- The questions are asked in this order, and each answer can be the last.
  obtain ⟨valid, state₁, validated⟩ := o.course_validateAddress address state
  cases valid with
  | error cause => exact ⟨_, _, _, .validateAddress_fails cause, validated.bind_error⟩
  | ok valid =>
    cases valid with
    | false => exact ⟨_, _, _, .invalid, validated.bind (.pure none)⟩
    | true =>
      obtain ⟨mine, state₂, owned⟩ := o.course_isMine address state₁
      cases mine with
      | error cause => exact ⟨_, _, _, .isMine_fails cause, validated.bind owned.bind_error⟩
      | ok mine =>
        cases mine with
        | false => exact ⟨_, _, _, .foreign, validated.bind (owned.bind (.pure none))⟩
        | true =>
          obtain ⟨answer, state₃, signed⟩ := o.course_sign address message state₂
          cases answer with
          | error cause =>
            exact ⟨_, _, _, .sign_fails cause, validated.bind (owned.bind signed.bind_error)⟩
          | ok signature =>
            exact ⟨_, _, _, .signed signature,
              validated.bind (owned.bind (signed.map some))⟩

/-- Signing for `participants` has a course, whose transcript `Collects` for them. -/
theorem exists_collects (o : Oracle σ) (message : String) (participants : List Participant)
    (state : σ) : ∃ transcript answer later, Collects message participants transcript answer ∧
      o.Course (o.signAll message participants) (o.recorded.signAll message participants) state
        transcript answer later := by
  induction participants generalizing state with
  | nil => exact ⟨[], .ok [], state, ⟨[], .nil, rfl, rfl⟩, .pure []⟩
  | cons p participants ih =>
    obtain ⟨block, own, state₁, dealt, first⟩ := o.exists_deals message p.address state
    cases own with
    | error cause =>
      -- The others are not asked about.
      exact ⟨block, .error cause, state₁,
        ⟨[], p, participants, [], block, rfl, .nil, dealt, rfl⟩, first.bind_error⟩
    | ok own =>
      obtain ⟨transcript, answer, state₂, collected, others⟩ := ih state₁
      cases answer with
      | error cause =>
        obtain ⟨before, q, after, deals, last, rfl, dealtWith, failed, rfl⟩ := collected
        exact ⟨_, .error cause, state₂,
          ⟨p :: before, q, after, (block, own) :: deals, last, rfl, .cons dealt dealtWith, failed,
            (List.append_assoc _ _ _).symm⟩,
          first.bind others.bind_error⟩
      | ok signatures =>
        obtain ⟨deals, dealtWith, rfl, rfl⟩ := collected
        refine ⟨_, .ok (own.toList ++ deals.filterMap Prod.snd), state₂,
          ⟨(block, own) :: deals, .cons dealt dealtWith, rfl, ?_⟩,
          first.bind (others.map fun signatures => own.toList ++ signatures)⟩
        cases own <;> rfl

end Oracle

/-! ### The whole collection -/

/-- What a collection gives: `data` as it is with the signatures, or the failure of the oracle. -/
def collected (data : Bytes) : Except OracleError (List Bytes) → Except SigningError SignedData
  | .ok signatures => .ok ⟨data, signatures⟩
  | .error cause => .error (.oracle cause)

theorem run_collect {o : Oracle σ} {c : Context} {data : Bytes} {message : String}
    (accepted : c.message data = .ok message) {state later : σ}
    {answer : Except OracleError (List Bytes)}
    (answered : (o.signAll message c.metadata.participants).run.run state = (answer, later)) :
    (collect o c data).run.run state = (collected data answer, later) := by
  unfold collect
  rw [accepted]
  have adapted :
      ((o.signAll message c.metadata.participants).adapt SigningError.oracle).run.run state =
        (answer.mapError .oracle, later) := by
    rw [run_adapt, answered]
  cases answer with
  | error cause => exact run_bind_of_error adapted
  | ok signatures => exact run_bind_of_ok adapted

/-- **What a collection asks, and what it gives.** Take any oracle `o` and any `state`. In a
context that is refused nothing is asked. In any other there is a `transcript` by which `o`
replies: by `Collects`, about each participant in order whether the address is valid, then whether
it is the oracle's own if it is valid, and then for its signature over `message` if it is. These
questions are asked and no others. The first that fails is the last, and its failure is all that
comes of them; when none fails, `data` is left as it is and has the signatures that were given, in
order. -/
theorem collect_transcript (o : Oracle σ) (c : Context) (data : Bytes) (state : σ) :
    (∀ refusal, c.message data = .error refusal →
      (collect o c data).run.run state = (.error refusal, state) ∧
      ∀ past, (collect o.recorded c data).run.run (state, past) =
        (.error refusal, state, past)) ∧
    ∀ message, c.message data = .ok message →
      ∃ transcript answer later,
        Collects message c.metadata.participants transcript answer ∧
        o.Replies state transcript later ∧
        (collect o c data).run.run state = (collected data answer, later) ∧
        ∀ past, (collect o.recorded c data).run.run (state, past) =
          (collected data answer, later, past ++ transcript.map Asked.query) := by
  constructor
  · -- A context without a message asks nothing.
    intro refusal refused
    exact ⟨collect_of_message_eq_error refused o state,
      fun past => collect_of_message_eq_error refused o.recorded (state, past)⟩
  · intro message accepted
    obtain ⟨transcript, answer, later, collects, course⟩ :=
      o.exists_collects message c.metadata.participants state
    exact ⟨transcript, answer, later, collects, course.replies,
      run_collect accepted course.answered, fun past => run_collect accepted (course.noted past)⟩

/-! A notary who can sign only once. -/

/-- Signs for two addresses, and is locked after its first signature. -/
def lockingNotary : Oracle Bool where
  validateAddress address := return address != ""
  isMine address := return address == "alice" || address == "carol"
  sign _ message := do
    if ← get then throw (.signing "wallet locked")
    set true
    return Bytes.ofText message

/-- The case of `collect_transcript` for `lockingNotary`: Alice gets her signature, a stranger and
a bad address are passed over, and at Carol the collection ends, so that her name is asked for
last, although Alice follows once more. -/
theorem collect_transcript_locked :
    (∃ refusal, { chess with topic := "two\nlines" }.message [1] = .error refusal ∧
      (collect lockingNotary.recorded { chess with topic := "two\nlines" } [1]).run.run
        (false, []) = (.error refusal, false, [])) ∧
    ∃ message, chess.message [1] = .ok message ∧
      (∃ transcript answer later,
        Collects message chess.metadata.participants transcript answer ∧
        lockingNotary.Replies false transcript later ∧
        (collect lockingNotary.recorded chess [1]).run.run (false, []) =
          (collected [1] answer, later, transcript.map Asked.query)) ∧
      (collect lockingNotary.recorded chess [1]).run.run (false, []) =
        (.error (.oracle (.signing "wallet locked")), true,
          [.validateAddress "alice", .isMine "alice", .sign "alice" message,
            .validateAddress "bob", .isMine "bob", .validateAddress "",
            .validateAddress "carol", .isMine "carol", .sign "carol" message]) := by
  constructor
  · have refused : ({ chess with topic := "two\nlines" } : Context).message [1] =
        .error (.invalidArgument (.lineBreak .topic)) := by
      decide
    exact ⟨_, refused, ((collect_transcript lockingNotary _ [1] false).1 _ refused).2 []⟩
  · have accepted : chess.message [1] = .ok _ :=
      compose_eq_ok (by decide) (by decide) chess.channel [7] [1]
    refine ⟨_, accepted, ?_, ?_⟩
    · obtain ⟨transcript, answer, later, collects, replies, _, noted⟩ :=
        (collect_transcript lockingNotary chess [1] false).2 _ accepted
      exact ⟨transcript, answer, later, collects, replies, noted []⟩
    · rw [collect, accepted]
      rfl

end StateChannel.Signing
