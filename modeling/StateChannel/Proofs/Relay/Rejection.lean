import StateChannel.Proofs.Relay.Answers
import StateChannel.Proofs.Relay.Parameters
import StateChannel.Proofs.Relay.Readers
import StateChannel.Proofs.Relay.Unnoticed

/-!
# Calls that are rejected

Whatever no call can be made from, with an id or without, alone or among other things, is refused
before any channel is looked up: it is counted, if it names a method, and nothing else of the relay
changes. A call that is made leaves a channel behind, which stays.

## Main definitions

* `Json.AsksCall`, `HttpRequest.Rejected`: values and requests that no call can be made from
* `Relay.calls`: the calls that are made for a list of requests
* `Entry.ComesTo`: how far a request has come when it has started

## Main results

* `Relay.timeline_startEntries`: only the calls that are made act on channels and readers
* `Relay.begin_of_rejected`: a request without such a call changes nothing but counts
* `Relay.find?_operateAll`: channels stay
* `Relay.rejected_calls_touch_nothing`: all of this
-/

namespace StateChannel

/-! ### What is rejected -/

/-- A call can be made from `value`: it is a request, and by `Call.Asks` its parameters fit its
method. -/
def Json.AsksCall (value : Json) : Prop :=
  ∃ id method params call, Entry.ofJson value = .call id method params ∧ Call.Asks params method call

/-- The body of `request` is too long, is no text, is no JSON, is a batch of inadmissible size, or
holds nothing that `AsksCall`. -/
inductive HttpRequest.Rejected (config : Config) (request : HttpRequest) : Prop
  | announced (long : request.IsOverAnnounced config)
  | long (calls : request.route = .calls) (long : request.bodyLimit config < request.body.size)
  | noText (calls : request.route = .calls) (utf8 : String.fromUTF8? request.body = none)
  | unparsable {text : String} (calls : request.route = .calls)
    (utf8 : String.fromUTF8? request.body = some text) (unparsable : Json.parse? text = none)
  | inadmissible {text : String} {items : List Json} (calls : request.route = .calls)
    (utf8 : String.fromUTF8? request.body = some text)
    (parsed : Json.parse? text = some (.array items))
    (size : items = [] ∨ config.maxBatchSize.toNat < items.length)
  | single {text : String} {value : Json} (calls : request.route = .calls)
    (utf8 : String.fromUTF8? request.body = some text) (parsed : Json.parse? text = some value)
    (single : ∀ items, value ≠ .array items) (misfit : ¬ value.AsksCall)
  | batch {text : String} {items : List Json} (calls : request.route = .calls)
    (utf8 : String.fromUTF8? request.body = some text)
    (parsed : Json.parse? text = some (.array items)) (misfits : ∀ value ∈ items, ¬ value.AsksCall)

theorem Entry.call?_eq_none_iff {value : Json} :
    (Entry.ofJson value).call? = none ↔ ¬ value.AsksCall := by
  cases entry : Entry.ofJson value with
  | refused answer => simp [Entry.call?, Json.AsksCall, entry]
  | call id method params =>
    rw [Entry.call?]
    cases routed : Call.route method params with
    | error e =>
      simp only [Except.toOption, Json.AsksCall, entry, true_iff]
      rintro ⟨_, _, _, call, same, asks⟩
      obtain ⟨-, rfl, rfl⟩ := Entry.call.inj same
      rw [Call.route_eq_ok_iff.2 asks] at routed
      cases routed
    | ok call =>
      simp only [Except.toOption, reduceCtorEq, false_iff, not_not]
      exact ⟨id, method, params, call, entry, Call.route_eq_ok_iff.1 routed⟩

namespace Relay

variable {relay : Relay} {ticket : Ticket}

/-- A request for calls is answered without an entry, or its body is a `text` within the limit and
the submission is the one of `Submission.ofText`. -/
theorem submission_of_calls (relay : Relay) {request : HttpRequest}
    (calls : request.route = .calls) :
    (∃ response, relay.submission request = .answered response) ∨
      ∃ text, request.body.size ≤ request.bodyLimit relay.config ∧
        String.fromUTF8? request.body = some text ∧ relay.submission request =
          Submission.ofRead relay.wording
            (Submission.ofText relay.config.maxBatchSize.toNat text) := by
  simp only [submission, calls]
  by_cases announced : request.IsOverAnnounced relay.config
  · exact .inl ⟨_, if_pos announced⟩
  · rw [if_neg announced, Submission.ofBody]
    by_cases long : request.bodyLimit relay.config < request.body.size
    · rw [if_pos long]
      exact .inl ⟨_, rfl⟩
    · rw [if_neg long]
      -- Within the limits, what counts is whether the body is a text.
      cases utf8 : String.fromUTF8? request.body with
      | none => exact .inl ⟨_, rfl⟩
      | some text => exact .inr ⟨text, Nat.not_lt.1 long, rfl, rfl⟩

/-- A request for calls whose body is `text` is answered without an entry, or its submission is the
one of `Submission.ofText`. -/
theorem submission_of_utf8 (relay : Relay) {request : HttpRequest} (calls : request.route = .calls)
    {text : String} (utf8 : String.fromUTF8? request.body = some text) :
    (∃ response, relay.submission request = .answered response) ∨
      relay.submission request = Submission.ofRead relay.wording
        (Submission.ofText relay.config.maxBatchSize.toNat text) := by
  rcases submission_of_calls relay calls with answered | ⟨text', _, utf8', asks⟩
  · exact .inl answered
  · obtain rfl := Option.some.inj (utf8.symm.trans utf8')
    exact .inr asks

/-- A `Rejected` request is answered without an entry, or no entry of it makes a call. -/
theorem submission_of_rejected {request : HttpRequest} (rejected : request.Rejected relay.config) :
    (∃ response, relay.submission request = .answered response) ∨
      (∃ entry, relay.submission request = .single entry ∧ entry.call? = none) ∨
      ∃ entries, relay.submission request = .batch entries ∧
        ∀ entry ∈ entries, entry.call? = none := by
  -- Whatever stops the request is met in this order, so that an earlier stop answers it too.
  cases rejected with
  | announced long => exact .inl ⟨_, if_pos long⟩
  | long calls long =>
    rcases submission_of_calls relay calls with answered | ⟨_, short, _⟩
    · exact .inl answered
    · exact absurd short (Nat.not_le.2 long)
  | noText calls utf8 =>
    rcases submission_of_calls relay calls with answered | ⟨text, _, text', _⟩
    · exact .inl answered
    · exact nomatch utf8.symm.trans text'
  | unparsable calls utf8 unparsable =>
    rcases submission_of_utf8 relay calls utf8 with answered | asks
    · exact .inl answered
    · rw [Submission.ofText_unparsable unparsable] at asks
      exact .inl ⟨_, asks⟩
  | inadmissible calls utf8 parsed size =>
    rcases submission_of_utf8 relay calls utf8 with answered | asks
    · exact .inl answered
    · obtain ⟨detail, refused⟩ := Submission.ofText_inadmissible parsed size
      rw [refused] at asks
      exact .inl ⟨_, asks⟩
  | single calls utf8 parsed single misfit =>
    rcases submission_of_utf8 relay calls utf8 with answered | asks
    · exact .inl answered
    · rw [Submission.ofText_single parsed single] at asks
      exact .inr (.inl ⟨_, asks, Entry.call?_eq_none_iff.2 misfit⟩)
  | @batch _ items calls utf8 parsed misfits =>
    rcases submission_of_utf8 relay calls utf8 with answered | asks
    · exact .inl answered
    · by_cases size : items = [] ∨ relay.config.maxBatchSize.toNat < items.length
      · obtain ⟨detail, refused⟩ := Submission.ofText_inadmissible parsed size
        rw [refused] at asks
        exact .inl ⟨_, asks⟩
      · rw [not_or, Nat.not_lt] at size
        rw [Submission.ofText_batch parsed size.1 size.2] at asks
        refine .inr (.inr ⟨_, asks, ?_⟩)
        intro entry member
        obtain ⟨value, inside, rfl⟩ := List.mem_map.1 member
        exact Entry.call?_eq_none_iff.2 (misfits value inside)

/-! ### Requests that start -/

/-- The calls that `entries` make, each with its place under `ticket`. -/
def calls (ticket : Ticket) (entries : List Entry) (first : Nat) : List (Place × Call) :=
  (entries.zipIdx first).filterMap fun (entry, index) => entry.call?.map ((ticket, index), ·)

end Relay

/-- How far an entry has come when it has started: it is refused, its call fails or is answered, or
its reader waits. -/
inductive Entry.ComesTo : Entry → Progress → Prop
  | refused (answer : Json) : ComesTo (.refused answer) (.done (some answer))
  | failed {id : Option Json} {method : String} {params : Option Json} {e : ApiError}
    (routed : Call.route method params = .error e) :
    ComesTo (.call id method params) (.done (Entry.answer id (.error e)))
  | answered {id : Option Json} {method : String} {params : Option Json} {call : Call}
    (routed : Call.route method params = .ok call) (outcome : Outcome) :
    ComesTo (.call id method params) (.done (Entry.answer id (.ok outcome)))
  | waits {id : Option Json} {method : String} {params : Option Json} {channel : String}
    {start : UInt64} (routed : Call.route method params = .ok (.receive channel start)) :
    ComesTo (.call id method params) (.waiting id)

namespace Relay

variable {relay : Relay} {ticket : Ticket}

/-- Starting an `entry` that makes no call changes at most the metrics. -/
theorem startEntry_of_call?_eq_none {entry : Entry} (misfit : entry.call? = none) (relay : Relay)
    (key : Place) : ∃ metrics answer,
      relay.startEntry key entry = ({ relay with metrics }, .done answer) := by
  cases entry with
  | refused answer => exact ⟨relay.metrics, some answer, rfl⟩
  | call id method params =>
    cases routed : Call.route method params with
    | error e =>
      exact ⟨countCall relay.metrics id (.error e) 0, Entry.answer id (.error e),
        by simp only [startEntry, routed]⟩
    | ok call => simp [Entry.call?, routed, Except.toOption] at misfit

/-- Starting an `entry` that makes `call` does to the timeline what `invoke` does for `call`. -/
theorem timeline_startEntry_of_call {entry : Entry} {call : Call} (made : entry.call? = some call)
    (relay : Relay) (key : Place) :
    (relay.startEntry key entry).1.timeline =
      (invoke relay.timeline relay.config.receiveTimeout key call).1 := by
  cases entry with
  | refused answer => exact nomatch made
  | call id method params =>
    cases routed : Call.route method params with
    | error e => simp [Entry.call?, routed, Except.toOption] at made
    | ok call' =>
      obtain rfl : call' = call := by simpa [Entry.call?, routed, Except.toOption] using made
      simp only [startEntry, routed]
      split <;> rfl

theorem comesTo_startEntry (relay : Relay) (key : Place) (entry : Entry) :
    entry.ComesTo (relay.startEntry key entry).2 := by
  cases entry with
  | refused answer => exact .refused answer
  | call id method params =>
    cases routed : Call.route method params with
    | error e =>
      simp only [startEntry, routed]
      exact .failed routed
    | ok call =>
      simp only [startEntry, routed]
      split
      · exact .answered routed _
      · next waits =>
        -- Only a reader waits.
        cases call with
        | send channel message => cases waits
        | getSeq channel => cases waits
        | receive channel start => exact .waits routed

theorem comesTo_startEntries (relay : Relay) (ticket : Ticket) (entries : List Entry) (first : Nat) :
    List.Forall₂ Entry.ComesTo entries (relay.startEntries ticket entries first).2 := by
  induction entries generalizing relay first with
  | nil => exact .nil
  | cons entry entries ih => exact .cons (comesTo_startEntry relay (ticket, first) entry) (ih _ _)

/-- Starting `entries` does to the timeline what `invoke` does for the `calls` one after
another. -/
theorem timeline_startEntries (relay : Relay) (ticket : Ticket) (entries : List Entry)
    (first : Nat) :
    (relay.startEntries ticket entries first).1.timeline =
      (calls ticket entries first).foldl
        (fun t made => (invoke t relay.config.receiveTimeout made.1 made.2).1) relay.timeline := by
  induction entries generalizing relay first with
  | nil => rfl
  | cons entry entries ih =>
    -- A request that no call is made for takes its number all the same.
    obtain ⟨timeline, metrics, same⟩ := relay.exists_startEntry_eq (ticket, first) entry
    have config : (relay.startEntry (ticket, first) entry).1.config = relay.config := by rw [same]
    have rest := ih (relay.startEntry (ticket, first) entry).1 (first + 1)
    rw [config] at rest
    refine rest.trans ?_
    cases made : entry.call? with
    | none =>
      obtain ⟨metrics, answer, started⟩ :=
        startEntry_of_call?_eq_none made relay (ticket, first)
      simp [calls, List.zipIdx_cons, made, started]
    | some call =>
      rw [timeline_startEntry_of_call made]
      simp [calls, List.zipIdx_cons, made]

/-- After `invoke` there is a channel with the name that `call` has. -/
theorem find?_invoke_self (t : Timeline Place) (timeout : Duration) (key : Place) (call : Call) :
    ∃ place, (invoke t timeout key call).1.registry.find? call.channel = some place := by
  cases call with
  | send channel message =>
    exact ⟨_, (Registry.find?_update _ _ _ _).trans (Registry.find?_enter _ _)⟩
  | getSeq channel => exact ⟨_, Registry.find?_enter _ _⟩
  | receive channel start =>
    refine ⟨(t.registry.enter channel).2, ?_⟩
    show (t.receive key channel start.toNat timeout.wait).1.registry.find? channel = _
    rw [Timeline.registry_receive]
    exact Registry.find?_enter _ _

theorem find?_startEntries_of_mem (relay : Relay) (ticket : Ticket) {entries : List Entry}
    (first : Nat) {entry : Entry} (member : entry ∈ entries) {call : Call}
    (made : entry.call? = some call) :
    ∃ place, (relay.startEntries ticket entries first).1.timeline.registry.find? call.channel =
      some place := by
  induction entries generalizing relay first with
  | nil => exact nomatch member
  | cons other entries ih =>
    rcases List.mem_cons.1 member with rfl | later
    · obtain ⟨place, found⟩ :=
        find?_invoke_self relay.timeline relay.config.receiveTimeout (ticket, first) call
      rw [← timeline_startEntry_of_call made] at found
      exact ⟨place, find?_startEntries found ticket entries (first + 1)⟩
    · exact ih _ (first + 1) later

/-! ### What is left -/

/-- An operation leaves every channel at its `place`. -/
theorem find?_operate (steady : relay.Steady) (operation : Operation) {name : String}
    {place : LogId} (found : relay.timeline.registry.find? name = some place) :
    (relay.operate operation).1.timeline.registry.find? name = some place := by
  have submitted (first : Ticket) (isBatch : Bool) (entries : List Entry) :
      (relay.submit first isBatch entries).1.timeline.registry.find? name = some place := by
    rw [timeline_submit steady]
    exact find?_startEntries found first entries 0
  -- Channels are entered by what is submitted, and nothing takes one away.
  cases operation with
  | begin first request =>
    show (relay.begin first request).1.timeline.registry.find? name = some place
    unfold Relay.begin
    dsimp only
    split
    · exact found
    · exact submitted first false _
    · exact submitted first true _
  | abort first => exact found
  | pass millis =>
    show (relay.pass millis).1.timeline.registry.find? name = some place
    rw [timeline_pass]
    exact found

theorem find?_operateAll (steady : relay.Steady) {operations : List Operation}
    (admits : relay.Admits operations) {name : String} {place : LogId}
    (found : relay.timeline.registry.find? name = some place) :
    (relay.operateAll operations).1.timeline.registry.find? name = some place := by
  induction operations generalizing relay with
  | nil => exact found
  | cons operation operations ih =>
    exact ih (steady.operate admits.1) admits.2 (find?_operate steady operation found)

/-- Starting `entries` that make no calls changes at most the metrics, and all of them are
`.done`. -/
theorem startEntries_of_call?_eq_none {entries : List Entry}
    (misfits : ∀ entry ∈ entries, entry.call? = none) (relay : Relay) (ticket : Ticket)
    (first : Nat) :
    ∃ metrics progress, relay.startEntries ticket entries first = ({ relay with metrics }, progress) ∧
      ∀ p ∈ progress, ∃ answer, p = .done answer := by
  induction entries generalizing relay first with
  | nil => exact ⟨relay.metrics, [], rfl, fun _ member => nomatch member⟩
  | cons entry entries ih =>
    -- What makes no call changes the counters only.
    obtain ⟨metrics, answer, started⟩ := startEntry_of_call?_eq_none
      (misfits entry List.mem_cons_self) relay (ticket, first)
    obtain ⟨metrics', progress, rest, done⟩ :=
      ih (fun other member => misfits other (List.mem_cons_of_mem _ member)) { relay with metrics }
        (first + 1)
    refine ⟨metrics', .done answer :: progress, by simp only [startEntries, started, rest], ?_⟩
    intro p member
    rcases List.mem_cons.1 member with rfl | later
    · exact ⟨answer, rfl⟩
    · exact done p later

/-- Submitting `entries` that make no calls is answered at once and changes at most the metrics. -/
theorem submit_of_call?_eq_none (nobody : relay.timeline.woken = []) {entries : List Entry}
    (misfits : ∀ entry ∈ entries, entry.call? = none) (ticket : Ticket) (isBatch : Bool) :
    ∃ metrics response, relay.submit ticket isBatch entries =
      ({ relay with metrics }, [⟨ticket, response, relay.timeline.now, relay.timeline.now⟩]) := by
  obtain ⟨metrics, progress, begins, done⟩ :=
    startEntries_of_call?_eq_none misfits relay ticket 0
  obtain ⟨response, answered⟩ : ∃ response,
      (⟨ticket, relay.timeline.now, isBatch, progress⟩ : InFlight).response? = some response := by
    cases given : (⟨ticket, relay.timeline.now, isBatch, progress⟩ : InFlight).response? with
    | some response => exact ⟨response, rfl⟩
    | none =>
      obtain ⟨index, id, waits⟩ := InFlight.response?_eq_none_iff.1 given
      obtain ⟨answer, impossible⟩ := done _ (List.mem_of_getElem? waits)
      exact nomatch impossible
  -- No reader has been woken, so nobody goes on after it.
  have goesOn := resume_of_woken_eq_nil { relay with metrics } nobody ticket entries.length
  refine ⟨metrics, response, ?_⟩
  simp only [submit, begins, finished?, answered, Option.map_some]
  exact congrArg (fun x : Relay × List Finished => (x.1, _ :: x.2)) goesOn

/-- A `Rejected` request is answered at once and changes at most the metrics. -/
theorem begin_of_rejected (nobody : relay.timeline.woken = []) {request : HttpRequest}
    (rejected : request.Rejected relay.config) (ticket : Ticket) :
    ∃ metrics response, relay.begin ticket request =
      ({ relay with metrics }, [⟨ticket, response, relay.timeline.now, relay.timeline.now⟩]) := by
  rcases submission_of_rejected rejected with
    ⟨response, asks⟩ | ⟨entry, asks, misfit⟩ | ⟨entries, asks, misfits⟩
  · exact ⟨relay.metrics, response, begin_of_answered asks⟩
  · simp only [Relay.begin, asks]
    exact submit_of_call?_eq_none nobody (by simpa using misfit) ticket false
  · simp only [Relay.begin, asks]
    exact submit_of_call?_eq_none nobody misfits ticket true

/-- **Rejected calls touch nothing.** `Call.route` makes `call` exactly when `Call.Asks` says so,
and otherwise fails with -32602 for one of `Call.methods` and with -32601 for others. An entry
whose call fails is counted and `.done` with the error, and nothing else changes. Starting
`entries` does to the timeline what `invoke` does for their `calls`, brings each entry as far as
`Entry.ComesTo` says, and leaves the channel of each call behind. At a `reached` relay a `Rejected`
request changes at most the metrics and is answered at once, and the channels of the calls of an
accepted one are there after it and all that comes `later`. -/
theorem rejected_calls_touch_nothing (config : Config) (wording : Wording)
    {operations : List Operation} (admitted : (start config wording).Admits operations)
    {reached : Relay}
    (state : reached = ((start config wording).operateAll operations).1) :
    (∀ method params call,
      Call.route method params = .ok call ↔ Call.Asks params method call) ∧
    (∀ method params e, Call.route method params = .error e →
      e.code = if method ∈ Call.methods then -32602 else -32601) ∧
    (∀ (relay : Relay) key id method params e, Call.route method params = .error e →
      relay.startEntry key (.call id method params) =
        ({ relay with metrics := countCall relay.metrics id (.error e) 0 },
          .done (Entry.answer id (.error e)))) ∧
    (∀ (relay : Relay) ticket entries first,
      (relay.startEntries ticket entries first).1.timeline =
        (calls ticket entries first).foldl
          (fun t made => (invoke t relay.config.receiveTimeout made.1 made.2).1) relay.timeline ∧
      List.Forall₂ Entry.ComesTo entries (relay.startEntries ticket entries first).2 ∧
      ∀ entry ∈ entries, ∀ call, entry.call? = some call → ∃ place,
        (relay.startEntries ticket entries first).1.timeline.registry.find? call.channel =
          some place) ∧
    (∀ ticket request, request.Rejected config → ∃ metrics response,
      reached.begin ticket request =
        ({ reached with metrics },
          [⟨ticket, response, reached.timeline.now, reached.timeline.now⟩])) ∧
    ∀ ticket request, (∀ f ∈ reached.inFlight, f.ticket ≠ ticket) →
      ∀ later, (reached.begin ticket request).1.Admits later →
      ∀ entry ∈ (reached.submission request).entries, ∀ call, entry.call? = some call → ∃ place,
        ((reached.begin ticket request).1.operateAll later).1.timeline.registry.find?
          call.channel = some place := by
  have configured : reached.config = config := state ▸ config_operateAll _ operations
  have steady : reached.Steady := state ▸ (steady_start config wording).operateAll admitted
  refine ⟨fun method params call => Call.route_eq_ok_iff,
    fun method params e failed => Call.code_of_route_error failed,
    fun relay key id method params e failed => by simp only [startEntry, failed],
    fun relay ticket entries first => ⟨timeline_startEntries relay ticket entries first,
      comesTo_startEntries relay ticket entries first,
      fun entry member call made => find?_startEntries_of_mem relay ticket first member made⟩,
    fun ticket request rejected => begin_of_rejected steady.woken (configured.symm ▸ rejected) ticket,
    fun ticket request fresh later admits entry member call made => ?_⟩
  -- The channel is there when the request has been taken, and no later operation takes it away.
  have afterwards {isBatch : Bool} {entries : List Entry} (member : entry ∈ entries) :
      ∃ place, (reached.submit ticket isBatch entries).1.timeline.registry.find? call.channel =
        some place := by
    rw [timeline_submit steady]
    exact find?_startEntries_of_mem reached ticket 0 member made
  have steady' : (reached.operate (.begin ticket request)).1.Steady :=
    steady.operate fun _ _ same => by
      obtain ⟨rfl, -⟩ := Operation.begin.inj same
      exact fresh
  have found : ∃ place,
      (reached.begin ticket request).1.timeline.registry.find? call.channel = some place := by
    -- Only entries make calls, and what is answered without them has none.
    cases asks : reached.submission request with
    | answered response =>
      rw [asks] at member
      cases member
    | single other =>
      rw [asks] at member
      simp only [Relay.begin, asks]
      exact afterwards member
    | batch entries =>
      rw [asks] at member
      simp only [Relay.begin, asks]
      exact afterwards member
  obtain ⟨place, found⟩ := found
  exact ⟨place, find?_operateAll steady' admits found⟩

/-- A `receive` with a negative position, without an `id`. -/
def misplaced : HttpRequest :=
  ⟨"POST", "/", [], "\x7b\"method\":\"receive\",\"params\":[\"a\",-1]\x7d".toUTF8⟩

/-- The case of `rejected_calls_touch_nothing` for `misplaced`: nothing but the metrics changes, so
the channel that it names is not created. -/
theorem rejected_calls_touch_nothing_misplaced : ∃ metrics response,
    (start .standard .silent).begin .foreground misplaced =
      ({ start .standard .silent with metrics }, [⟨.foreground, response, 0, 0⟩]) := by
  have admitted : (start .standard .silent).Admits [] := trivial
  have touched := rejected_calls_touch_nothing .standard .silent admitted rfl
  refine touched.2.2.2.2.1 .foreground misplaced (.single rfl rfl rfl ?_ ?_)
  · exact fun items => Json.noConfusion
  · exact Entry.call?_eq_none_iff.1 rfl

end Relay

end StateChannel
