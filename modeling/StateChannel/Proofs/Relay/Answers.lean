import Mathlib.Data.List.Forall2
import StateChannel.Proofs.Relay.Steady

/-!
# How a relay answers

A text that is no JSON, an empty batch and one that is too long are refused as a whole, and nothing
else happens. All other texts are answered value by value: a call of a method without an id is not
answered, and everything else is, with a result or an error and with its own id where that is one.
The answers keep the order of the values, in whatever order the calls come to an end.

## Main definitions

* `Json.isNotification`, `Json.ownId`: whether a value is answered, and with which id
* `Json.IsResponse`, `Json.IsRefusal`: what a single answer looks like
* `HttpResponse.AnswersOne`, `HttpResponse.AnswersAll`: what the response to a text looks like
* `Progress.Fits`: how far the request that a value stands for may have come

## Main results

* `Relay.fits_startEntry`, `Relay.fits_settle`: requests come to what fits their values
* `Relay.answer_discipline`: every text is answered once, as it should be
-/

namespace StateChannel

/-! ### Answers as they should be -/

namespace Json

/-- The value is an object with a string for `method` and no `id`. -/
def isNotification : Json → Bool
  | .object members =>
    match Members.find? "method" members, Members.find? "id" members with
    | some (.string _), none => true
    | _, _ => false
  | _ => false

/-- The `id` that the value is answered with: its own, where that is a string, a number or null,
and otherwise null. -/
def ownId : Json → Json
  | .object members =>
    match Members.find? "id" members with
    | some (.string s) => .string s
    | some (.number n) => .number n
    | _ => .null
  | _ => .null

theorem ownId_object {members : Members} (fits : ∀ id ∈ Members.find? "id" members, Entry.IsId id) :
    ownId (.object members) = (Members.find? "id" members).getD .null := by
  simp only [ownId]
  cases found : Members.find? "id" members with
  | none => rfl
  | some id =>
    have isId := fits id found
    cases id with
    | string s | number n | null => rfl
    | bool b | array items | object members => exact False.elim isId

theorem ownId_object_of_not {members : Members} {id : Json}
    (found : Members.find? "id" members = some id) (other : ¬ Entry.IsId id) :
    ownId (.object members) = .null := by
  simp only [ownId, found]
  cases id with
  | string s => exact absurd trivial other
  | number n => exact absurd trivial other
  | null | bool b | array items | object members => rfl

theorem isNotification_object (members : Members) :
    isNotification (.object members) = true ↔
      (∃ method, Members.find? "method" members = some (.string method)) ∧
        Members.find? "id" members = none := by
  simp only [isNotification]
  split <;> simp_all

/-- `answer` is a response with `id`, and it has either a `result` or an `error`. -/
structure IsResponse (id answer : Json) : Prop where
  version : answer.member? "jsonrpc" = some (.string "2.0")
  id : answer.member? "id" = some id
  outcome : Xor (answer.member? "result").isSome (answer.member? "error").isSome

/-- `answer` is an error with `code` and a null `id`. -/
def IsRefusal (code : Int32) (answer : Json) : Prop :=
  IsResponse .null answer ∧
    (answer.member? "error").bind (member? "code") = some (ofInt32 code)

theorem isResponse_resultAnswer (id result : Json) : IsResponse id (resultAnswer id result) where
  version := by simp [resultAnswer, member?_ofMembers, List.lookup_cons]
  id := by simp [resultAnswer, member?_ofMembers, List.lookup_cons]
  outcome := by simp [resultAnswer, member?_ofMembers, List.lookup_cons, Xor]

theorem isResponse_errorAnswer (id : Json) (e : ApiError) : IsResponse id (errorAnswer id e) where
  version := by simp [errorAnswer, member?_ofMembers, List.lookup_cons]
  id := by simp [errorAnswer, member?_ofMembers, List.lookup_cons]
  outcome := by simp [errorAnswer, member?_ofMembers, List.lookup_cons, Xor]

theorem isRefusal_errorAnswer (e : ApiError) : IsRefusal e.code (errorAnswer .null e) := by
  refine ⟨isResponse_errorAnswer _ e, ?_⟩
  cases e with
  | mk code message data =>
    cases data <;>
      simp [errorAnswer, member?_ofMembers, List.lookup_cons, ApiError.toJson]

end Json

namespace HttpResponse

/-- `response` answers the single `value`: 200 with an answer to it, or, if it is a notification, a
response without a body. -/
def AnswersOne (value : Json) (response : HttpResponse) : Prop :=
  if value.isNotification then response = bare 204
  else ∃ answer, Json.IsResponse value.ownId answer ∧ response = json 200 answer

/-- `response` answers the batch `values`: the answers to those that are no notifications, in
order, or, if there are none, a response without a body. -/
def AnswersAll (values : List Json) (response : HttpResponse) : Prop :=
  ∃ answers, List.Forall₂ (fun value answer => Json.IsResponse value.ownId answer)
      (values.filter fun value => !value.isNotification) answers ∧
    response = if answers = [] then bare 204 else json 200 (.array answers)

end HttpResponse

/-! ### How far a request has come -/

/-- How far the entry made from `value` may have come: a notification is `.done` without an answer,
any other value with an answer to its `ownId`, and only a call waits. -/
def Progress.Fits (value : Json) : Progress → Prop
  | .done none => value.isNotification = true
  | .done (some answer) => value.isNotification = false ∧ Json.IsResponse value.ownId answer
  | .waiting id => ∃ method params, Entry.ofJson value = .call id method params

namespace Entry

/-- A value that `Entry.ofJson` refuses is answered with its `ownId`. -/
theorem fits_of_refused {value answer : Json} (refused : ofJson value = .refused answer) :
    (Progress.done (some answer)).Fits value := by
  cases value with
  | object members =>
    -- An object is refused for its method or for its id. Either way it is no notification.
    simp only [ofJson] at refused
    split at refused
    · next fits =>
      split at refused
      · exact nomatch refused
      · next other =>
        obtain rfl := Entry.refused.inj refused
        rw [← Json.ownId_object fits]
        refine ⟨Bool.eq_false_iff.2 fun notified => ?_, Json.isResponse_errorAnswer _ _⟩
        obtain ⟨⟨method, found⟩, -⟩ := (Json.isNotification_object members).1 notified
        exact other method found
    · next misfits =>
      obtain rfl := Entry.refused.inj refused
      obtain ⟨id, found, misfit⟩ : ∃ id, Members.find? "id" members = some id ∧ ¬ IsId id := by
        simpa using misfits
      have own := Json.ownId_object_of_not found misfit
      refine ⟨Bool.eq_false_iff.2 fun notified => ?_, own ▸ Json.isResponse_errorAnswer _ _⟩
      rw [((Json.isNotification_object members).1 notified).2] at found
      exact nomatch found
  | null | bool b | number n | string s | array items =>
    obtain rfl := Entry.refused.inj refused
    exact ⟨rfl, Json.isResponse_errorAnswer _ _⟩

/-- Whatever the `outcome`, the answer to a call made from `value` is one that fits `value`. -/
theorem fits_answer {value : Json} {id : Option Json} {method : String} {params : Option Json}
    (asked : ofJson value = .call id method params) (outcome : Except ApiError Outcome) :
    (Progress.done (answer id outcome)).Fits value := by
  cases value with
  | object members =>
    simp only [ofJson] at asked
    split at asked
    · next fits =>
      split at asked
      · next text found =>
        obtain ⟨rfl, rfl, rfl⟩ := Entry.call.inj asked
        have own := Json.ownId_object fits
        -- Without an id it is a notification, and whatever comes out of it is not told.
        cases here : Members.find? "id" members with
        | none => exact (Json.isNotification_object members).2 ⟨⟨_, found⟩, here⟩
        | some id =>
          rw [here, Option.getD_some] at own
          refine ⟨Bool.eq_false_iff.2 fun notified => ?_, ?_⟩
          · rw [((Json.isNotification_object members).1 notified).2] at here
            exact nomatch here
          · rw [own]
            cases outcome with
            | ok outcome => exact Json.isResponse_resultAnswer _ _
            | error e => exact Json.isResponse_errorAnswer _ _
      · exact nomatch asked
    · exact nomatch asked
  | null | bool b | number n | string s | array items => exact nomatch asked

end Entry

theorem forall₂_set {α β : Type} {R : α → β → Prop} {items : List α} {images : List β}
    (all : List.Forall₂ R items images) {index : Nat} {old new : β}
    (found : images[index]? = some old) (next : ∀ item, R item old → R item new) :
    List.Forall₂ R items (images.set index new) := by
  induction all generalizing index with
  | nil => exact .nil
  | cons first rest ih =>
    cases index with
    | zero =>
      obtain rfl := Option.some.inj found
      exact .cons (next _ first) rest
    | succ index => exact .cons first (ih found)

/-- If `entries` fit `values` and all are answered, the answers there are belong to the values that
are no notifications, one by one. -/
theorem Progress.forall₂_answers {values : List Json} {entries : List Progress}
    (fits : List.Forall₂ Progress.Fits values entries) {answers : List (Option Json)}
    (answered : entries.mapM Progress.answer? = some answers) :
    List.Forall₂ (fun value answer => Json.IsResponse value.ownId answer)
      (values.filter fun value => !value.isNotification) (answers.filterMap id) := by
  induction fits generalizing answers with
  | nil =>
    obtain rfl := Option.some.inj answered
    exact .nil
  | @cons value progress values entries first rest ih =>
    -- Nothing waits any more, so what has no answer is a notification.
    cases progress with
    | waiting id => simp [Progress.answer?] at answered
    | done answer =>
      simp only [List.mapM_cons, Progress.answer?, Option.bind_eq_bind, Option.bind_some,
        Option.bind_eq_some_iff] at answered
      obtain ⟨later, others, same⟩ := answered
      rw [← Option.some.inj same]
      have further := ih others
      cases answer with
      | none =>
        have silent : value.isNotification = true := first
        rw [List.filter_cons_of_neg (by simp [silent])]
        exact further
      | some answer =>
        rw [List.filter_cons_of_pos (by simp [first.1])]
        exact .cons first.2 further

/-- The submission `f` is made from `values`, and each of its entries fits its value. -/
def InFlight.Fits (isBatch : Bool) (values : List Json) (f : InFlight) : Prop :=
  f.isBatch = isBatch ∧ List.Forall₂ Progress.Fits values f.entries

namespace InFlight

variable {f : InFlight} {values : List Json} {response : HttpResponse}

theorem Fits.answersAll (fits : f.Fits true values) (given : f.response? = some response) :
    response.AnswersAll values := by
  obtain ⟨batch, fits⟩ := fits
  obtain ⟨answers, answered, rfl⟩ := Option.map_eq_some_iff.1 given
  refine ⟨answers.filterMap id, Progress.forall₂_answers fits answered, ?_⟩
  rw [batch]
  cases answers.filterMap id <;> rfl

theorem Fits.answersOne {value : Json} (fits : f.Fits false [value])
    (given : f.response? = some response) : response.AnswersOne value := by
  obtain ⟨single, fits⟩ := fits
  obtain ⟨answers, answered, rfl⟩ := Option.map_eq_some_iff.1 given
  have present := Progress.forall₂_answers fits answered
  unfold HttpResponse.AnswersOne
  rw [single]
  -- One value has one answer, or none if it is a notification.
  cases notified : value.isNotification with
  | true =>
    rw [List.filter_cons_of_neg (by simp [notified]), List.filter_nil] at present
    rw [List.forall₂_nil_left_iff.1 present]
    rfl
  | false =>
    rw [List.filter_cons_of_pos (by simp [notified]), List.filter_nil] at present
    obtain ⟨answer, rest, own, none, same⟩ := List.forall₂_cons_left_iff.1 present
    rw [List.forall₂_nil_left_iff.1 none] at same
    rw [same]
    exact ⟨answer, own, rfl⟩

end InFlight

/-! ### Texts -/

namespace Submission

variable {text : String} {maxBatchSize : Nat}

theorem ofText_inadmissible {items : List Json} (parsed : Json.parse? text = some (.array items))
    (inadmissible : items = [] ∨ maxBatchSize < items.length) :
    ∃ detail, ofText maxBatchSize text =
      .ok (.answered (.json 200 (errorAnswer .null (.invalidRequest detail)))) := by
  rw [ofText, parsed]
  cases items with
  | nil => exact ⟨_, rfl⟩
  | cons item items =>
    have excess := inadmissible.resolve_left (List.cons_ne_nil _ _)
    exact ⟨_, congrArg Except.ok (if_pos excess)⟩

theorem ofText_batch {items : List Json} (parsed : Json.parse? text = some (.array items))
    (some : items ≠ []) (few : items.length ≤ maxBatchSize) :
    ofText maxBatchSize text = .ok (.batch (items.map Entry.ofJson)) := by
  rw [ofText, parsed]
  cases items with
  | nil => exact absurd rfl some
  | cons item items => exact congrArg Except.ok (if_neg (Nat.not_lt.2 few))

theorem ofText_single {value : Json} (parsed : Json.parse? text = some value)
    (single : ∀ items, value ≠ .array items) :
    ofText maxBatchSize text = .ok (.single (Entry.ofJson value)) := by
  rw [ofText, parsed]
  cases value with
  | array items => exact absurd rfl (single items)
  | null | bool b | number n | string s | object members => rfl

end Submission

namespace Relay

variable {relay : Relay} {ticket : Ticket}

theorem fits_startEntry (relay : Relay) (key : Place) (value : Json) :
    (relay.startEntry key (Entry.ofJson value)).2.Fits value := by
  cases entry : Entry.ofJson value with
  | refused answer => exact Entry.fits_of_refused entry
  | call id method params =>
    simp only [startEntry]
    split
    · exact Entry.fits_answer entry _
    · split
      · exact Entry.fits_answer entry _
      · exact ⟨method, params, entry⟩

theorem fits_startEntries (relay : Relay) (ticket : Ticket) (values : List Json) (first : Nat) :
    List.Forall₂ Progress.Fits values
      (relay.startEntries ticket (values.map Entry.ofJson) first).2 := by
  induction values generalizing relay first with
  | nil => exact .nil
  | cons value values ih => exact .cons (fits_startEntry relay (ticket, first) value) (ih _ _)

/-- Settling a delivery `d` to a submission that fits `values` leaves one that does. -/
theorem fits_settle (isBatch : Bool) (values : List Json) (d : Delivery Place) :
    Tracks.Keeps ticket (InFlight.Fits isBatch values) d := by
  rintro f id ⟨batch, fits⟩ - found
  refine ⟨batch, forall₂_set fits found ?_⟩
  rintro value ⟨method, params, asked⟩
  exact Entry.fits_answer asked _

/-! ### All texts -/

section Texts

variable {config : Config} {request : HttpRequest} {text : String}

/-- A `text` for calls within `maxRequestSize` is submitted as `Submission.ofText` says. -/
theorem submission_of_text (configured : relay.config = config) (calls : request.route = .calls)
    (measured : ∀ n ∈ request.announcedLength?, n = request.body.size)
    (short : request.body.size ≤ config.maxRequestSize.toNat)
    (utf8 : String.fromUTF8? request.body = some text) :
    relay.submission request =
      Submission.ofRead relay.wording (Submission.ofText config.maxBatchSize.toNat text) := by
  -- The announced length is the true one, so neither of the two limits stops the body.
  have announced : ¬ request.IsOverAnnounced config := by
    rintro ⟨n, given, excess⟩
    rw [measured n given] at excess
    exact Nat.not_lt.2 short excess
  have limit : request.body.size ≤ request.bodyLimit config := by
    unfold HttpRequest.bodyLimit
    split
    · next n given => exact Nat.le_min.2 ⟨short, Nat.le_of_eq (measured n given).symm⟩
    · exact short
  simp only [submission, announced, if_false, calls, configured, Submission.ofBody,
    Nat.not_lt.2 limit, utf8]

theorem begin_of_answered {response : HttpResponse}
    (answered : relay.submission request = .answered response) :
    relay.begin ticket request =
      (relay, [⟨ticket, response, relay.timeline.now, relay.timeline.now⟩]) := by
  simp only [Relay.begin, answered]

/-- The submission of `values` is answered at most once, by a response of something that fits
`values`, and it is answered when `receiveTimeout.wait` has elapsed in `later`. -/
theorem Steady.responses_submit (steady : relay.Steady)
    (fresh : ∀ f ∈ relay.inFlight, f.ticket ≠ ticket) (isBatch : Bool) (values : List Json)
    {later : List Operation}
    (admits : (relay.submit ticket isBatch (values.map Entry.ofJson)).1.Admits later)
    (others : ∀ operation ∈ later, operation.ticket? ≠ some ticket)
    {responses : List HttpResponse}
    (told : responses = responsesTo ticket ((relay.submit ticket isBatch
      (values.map Entry.ofJson)).2 ++
        ((relay.submit ticket isBatch (values.map Entry.ofJson)).1.operateAll later).2)) :
    responses.length ≤ 1 ∧
      (∀ response ∈ responses, ∃ f, InFlight.Fits isBatch values f ∧
        f.response? = some response) ∧
      (relay.config.receiveTimeout.wait ≤ elapsed later → responses ≠ []) := by
  have steadily := steady.submit fresh isBatch (values.map Entry.ofJson)
  -- From the moment it is taken, the submission is in work or has been answered, and only once.
  have taken : (relay.taking ticket isBatch (values.map Entry.ofJson)).Tracks ticket
      (InFlight.Fits isBatch values) [] :=
    .working (List.mem_append_right _ (List.mem_singleton_self _)) rfl
      ⟨rfl, relay.fits_startEntries ticket values 0⟩
  have tracks := (taken.submit steady fresh fun d _ => fits_settle isBatch values d).operateAll
    steadily (fun _ _ _ _ d _ => fits_settle isBatch values d) admits others
  rw [List.nil_append, ← responsesTo_append, ← told] at tracks
  refine ⟨?_, ?_, fun long => ?_⟩
  · cases tracks <;> simp
  · intro response member
    cases tracks with
    | working inside named holds => exact absurd member List.not_mem_nil
    | answered gone holds given =>
      rw [List.mem_singleton.1 member]
      exact ⟨_, holds, given⟩
  · -- After the waiting time no reader is left waiting, so the answer has been given.
    have bounded := (waitsUntil_submit steady fresh isBatch (values.map Entry.ofJson)).operateAll
      steadily admits others
    obtain ⟨response, same⟩ := tracks.exists_response (steadily.operateAll admits) bounded (by
      rw [now_operateAll steadily admits, now_submit steady]
      exact Nat.add_le_add_left long _)
    rw [same]
    exact List.cons_ne_nil _ _

/-- **How a relay answers.** A `request` for calls comes in at any relay that has been reached,
under a fresh `ticket`, with a body that is a `text` of at most `maxRequestSize` bytes. A `text`
that is no JSON is refused with -32700 and status 400, an empty batch and one of more than
`maxBatchSize` items with -32600, and the relay stays as it is. For every other `text` and any
`later` operations there is at most one response; it is there once `receiveTimeout.wait` has
elapsed, and it `AnswersOne` value, or `AnswersAll` values of the batch. -/
theorem answer_discipline (config : Config) (wording : Wording) {operations : List Operation}
    (admitted : (start config wording).Admits operations) {relay : Relay}
    (reached : relay = ((start config wording).operateAll operations).1) {ticket : Ticket}
    (fresh : ∀ f ∈ relay.inFlight, f.ticket ≠ ticket) {request : HttpRequest}
    (calls : request.route = .calls)
    (measured : ∀ n ∈ request.announcedLength?, n = request.body.size)
    (short : request.body.size ≤ config.maxRequestSize.toNat) {text : String}
    (utf8 : String.fromUTF8? request.body = some text) :
    (Json.parse? text = none → ∃ answer, Json.IsRefusal (-32700) answer ∧
      relay.begin ticket request =
        (relay, [⟨ticket, .json 400 answer, relay.timeline.now, relay.timeline.now⟩])) ∧
    (∀ items, Json.parse? text = some (.array items) →
      items = [] ∨ config.maxBatchSize.toNat < items.length →
      ∃ answer, Json.IsRefusal (-32600) answer ∧ relay.begin ticket request =
        (relay, [⟨ticket, .json 200 answer, relay.timeline.now, relay.timeline.now⟩])) ∧
    ∀ (later : List Operation) (responses : List HttpResponse),
      (relay.begin ticket request).1.Admits later →
      (∀ operation ∈ later, operation.ticket? ≠ some ticket) →
      responses = responsesTo ticket ((relay.begin ticket request).2 ++
        ((relay.begin ticket request).1.operateAll later).2) →
      (∀ value, Json.parse? text = some value → (∀ items, value ≠ .array items) →
        responses.length ≤ 1 ∧ (∀ response ∈ responses, response.AnswersOne value) ∧
        (config.receiveTimeout.wait ≤ elapsed later → responses ≠ [])) ∧
      ∀ items, Json.parse? text = some (.array items) → items ≠ [] →
        items.length ≤ config.maxBatchSize.toNat →
        responses.length ≤ 1 ∧ (∀ response ∈ responses, response.AnswersAll items) ∧
        (config.receiveTimeout.wait ≤ elapsed later → responses ≠ []) := by
  have configured : relay.config = config := reached ▸ config_operateAll _ operations
  have steady : relay.Steady := reached ▸ (steady_start config wording).operateAll admitted
  have asks := submission_of_text configured calls measured short utf8
  -- The text is no JSON, a batch that is refused, a single value, or a batch that is worked off.
  refine ⟨fun unparsable => ?_, fun items parsed inadmissible => ?_,
    fun later responses admits others told => ⟨fun value parsed single => ?_,
      fun items parsed some few => ?_⟩⟩
  · rw [Submission.ofText_unparsable unparsable] at asks
    exact ⟨_, Json.isRefusal_errorAnswer _, begin_of_answered asks⟩
  · obtain ⟨detail, refused⟩ := Submission.ofText_inadmissible parsed inadmissible
    rw [refused] at asks
    exact ⟨_, Json.isRefusal_errorAnswer (.invalidRequest detail), begin_of_answered asks⟩
  · -- A single value is submitted like a list of one.
    have begins : relay.begin ticket request =
        relay.submit ticket false ([value].map Entry.ofJson) := by
      simp only [Relay.begin, asks, Submission.ofText_single parsed single, Submission.ofRead_ok]
      rfl
    rw [begins] at admits told
    obtain ⟨once, fits, ends⟩ := steady.responses_submit fresh false [value] admits others told
    rw [configured] at ends
    refine ⟨once, fun response member => ?_, ends⟩
    obtain ⟨f, fits, given⟩ := fits response member
    exact fits.answersOne given
  · have begins : relay.begin ticket request =
        relay.submit ticket true (items.map Entry.ofJson) := by
      simp only [Relay.begin, asks, Submission.ofText_batch parsed some few, Submission.ofRead_ok]
    rw [begins] at admits told
    obtain ⟨once, fits, ends⟩ := steady.responses_submit fresh true items admits others told
    rw [configured] at ends
    refine ⟨once, fun response member => ?_, ends⟩
    obtain ⟨f, fits, given⟩ := fits response member
    exact fits.answersAll given

/-- A batch of a `receive`, a notification and a number. -/
def mixed : String :=
  "[\x7b\"id\":\"r\",\"method\":\"receive\",\"params\":[\"a\",0]\x7d," ++
    "\x7b\"method\":\"getseq\"\x7d,true]"

/-- The values of the batch `mixed`. -/
def mixedValues : List Json :=
  [.object [("id", .string "r"), ("method", .string "receive"),
      ("params", .array [.string "a", Json.ofCount 0])],
    .object [("method", .string "getseq")], .bool true]

/-- The case of `answer_discipline` for `mixed`: the reader finds nothing and waits for three
seconds, then the batch is answered, and the notification is passed over. -/
theorem answer_discipline_mixed : ∃ response,
    responsesTo .foreground (((start .standard .silent).begin .foreground
        ⟨"POST", "/", [], mixed.toUTF8⟩).2 ++
      (((start .standard .silent).begin .foreground ⟨"POST", "/", [], mixed.toUTF8⟩).1.operateAll
        [.pass 3000]).2) = [response] ∧ response.AnswersAll mixedValues := by
  have disciplined := @answer_discipline .standard .silent [] trivial _ rfl .foreground
    (fun f inside => nomatch inside) ⟨"POST", "/", [], mixed.toUTF8⟩ rfl
    (fun n given => nomatch given) (by decide) mixed rfl
  obtain ⟨once, answers, ends⟩ := (disciplined.2.2 [.pass 3000] _
    ⟨(fun ticket request other => nomatch other), trivial⟩ (by simp [Operation.ticket?]) rfl).2
      mixedValues rfl (List.cons_ne_nil _ _) (by decide)
  obtain ⟨response, same⟩ := List.length_eq_one_iff.1
    (Nat.le_antisymm once (List.length_pos_iff.2 (ends (by decide))))
  exact ⟨response, same, answers response (same ▸ List.mem_singleton_self response)⟩

end Texts

end Relay

end StateChannel
