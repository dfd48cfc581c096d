import Mathlib.Logic.Function.Basic
import StateChannel.Proofs.Relay.Refinement

/-!
# What is done to a relay

Requests come in, are dropped and wait while time passes. Each of these is a run of the traffic that
the relay follows, and so is any number of them.

## Main definitions

* `Relay.Operation`, `Relay.operate`: what is done, and what comes of it
* `Relay.Admits`: no request comes in under a ticket that is still in use

## Main results

* `Relay.Follows.begin`, `Relay.Follows.abort`: a relay keeps following its traffic
* `Relay.exists_traffic`: whatever is done to a relay, its calls could have done side by side
-/

namespace StateChannel

/-- The entries of a submission are those that the traffic makes of `request`. -/
theorem Relay.entries_submission (relay : Relay) (request : HttpRequest) :
    (relay.submission request).entries = Traffic.entries relay.config request := by
  unfold submission Traffic.entries
  split
  · rfl
  · cases request.route with
    | calls => cases Submission.ofBody relay.config request <;> rfl
    | _ => rfl

namespace Relay.Follows

variable {relay : Relay} {t : Traffic} {body : Ticket → Nat} {asked : List Entry}

/-! ### Requests that come in -/

/-- Submitting `request` to the traffic under a `fresh` ticket keeps `Follows`, with its entries
`asked` behind the others. -/
theorem take (follows : relay.Follows t body asked) {ticket : Ticket}
    (fresh : ∀ f ∈ relay.inFlight, f.ticket ≠ ticket) (request : HttpRequest) :
    relay.Follows (t.step (.submit request)) (Function.update body ticket t.bodies)
      (asked ++ Traffic.entries relay.config request) := by
  -- The others have other tickets, so their bodies keep their numbers.
  have old : ∀ f ∈ relay.inFlight,
      Function.update body ticket t.bodies f.ticket = body f.ticket :=
    fun f inside => Function.update_of_ne (fresh f inside) _ _
  have parts : ∀ f ∈ relay.inFlight,
      (t.step (.submit request)).partsOf (body f.ticket) = t.partsOf (body f.ticket) :=
    fun f inside => Traffic.partsOf_step (follows.started f inside) _
  have readers : ∀ w ∈ relay.timeline.readers,
      Function.update body ticket t.bodies w.key.1 = body w.key.1 ∧
        (t.step (.submit request)).partsOf (body w.key.1) = t.partsOf (body w.key.1) := by
    intro w member
    obtain ⟨⟨f, inside, named⟩, _⟩ := follows.owned w member
    exact named ▸ ⟨old f inside, parts f inside⟩
  refine ⟨Traffic.sound_step follows.sound _, ?_, follows.config, ?_, ?_, ?_, ?_, ?_⟩
  · rw [← follows.asked, ← follows.config]
    exact List.map_append.trans (congrArg _ (Part.map_entry_number _ _ _))
  · intro f inside
    rw [old f inside]
    exact Nat.lt_succ_of_lt (follows.started f inside)
  · rw [List.map_congr_left old]
    exact follows.apart
  · intro f inside
    rw [old f inside, parts f inside, follows.entries f inside]
    apply List.map_congr_left
    intro part member
    symm
    apply Part.progress_congr
    -- The calls of the new body have only begun, which answers none of the others.
    intro call number made
    rw [Traffic.interleaving_step]
    exact Interleaving.outcome?_run_of_isQuiet
      (Traffic.isQuiet_moves fun _ => Traffic.Event.noConfusion) number
  · rw [Traffic.interleaving_step]
    apply (follows.shadows.begin _).congr
    intro w member
    obtain ⟨same, kept⟩ := readers w member
    rw [Traffic.numberOf, Traffic.numberOf, Traffic.number, Traffic.number, same, kept]
  · intro w member
    obtain ⟨same, kept⟩ := readers w member
    obtain ⟨owner, call⟩ := follows.owned w member
    rw [Traffic.HasCall, same, kept]
    exact ⟨owner, call⟩

/-- The `moves` of calls that have come in with `request` change the progress of no `part` of an
older body. -/
theorem progress_older (follows : relay.Follows t body asked) (request : HttpRequest)
    {moves : List Move}
    (later : ∀ move ∈ moves, ∃ number, t.interleaving.calls.length ≤ number ∧ move.IsOf number)
    {place : Nat} {part : Part} (member : part ∈ t.partsOf place) :
    part.progress ((t.step (.submit request)).interleaving.run moves) =
      part.progress (t.step (.submit request)).interleaving := by
  apply Part.progress_run_of_others
  intro call number made move moved
  obtain ⟨other, past, of⟩ := later move moved
  obtain ⟨stage, found⟩ := Traffic.getElem?_calls_of_made follows.sound
    (List.mem_filter.1 member).1 made
  have before : number < t.interleaving.calls.length := (List.getElem?_eq_some_iff.1 found).1
  exact ⟨other, Nat.ne_of_gt (Nat.lt_of_lt_of_le before past), Move.index?_of_isOf of⟩

/-- The calls of a `request` that has just been submitted have the numbers of its parts, and are
`.naming`. -/
theorem naming_of_submit (follows : relay.Follows t body asked) (ticket : Ticket)
    {request : HttpRequest} {i number : Nat} {part : Part} {call : Call}
    (present : (Part.number t.bodies t.interleaving.calls.length
      (Traffic.entries relay.config request))[i]? = some part)
    (made : part.made = some (call, number)) :
    (t.step (.submit request)).numberOf (Function.update body ticket t.bodies)
        (ticket, 0 + i) = number ∧
      (t.step (.submit request)).interleaving.calls[number]? = some ⟨call, .naming⟩ := by
  rw [← follows.config] at present
  constructor
  · rw [Nat.zero_add, Traffic.numberOf, Function.update_self]
    rw [← Traffic.partsOf_submit follows.sound] at present
    exact Traffic.number_of_made present made
  · exact Traffic.getElem?_calls_submit (List.mem_of_getElem? present) made

/-- Starting the `entries` of a request that comes in follows some events of the traffic. -/
theorem start (follows : relay.Follows t body asked) {ticket : Ticket}
    (fresh : ∀ f ∈ relay.inFlight, f.ticket ≠ ticket) {request : HttpRequest}
    {entries : List Entry} (wanted : Traffic.entries relay.config request = entries)
    (began : Nat) (isBatch : Bool) :
    ∃ events body', ({ (relay.startEntries ticket entries 0).1 with
      inFlight := relay.inFlight ++
        [⟨ticket, began, isBatch, (relay.startEntries ticket entries 0).2⟩] } : Relay).Follows
          (t.run events) body' (asked ++ entries) := by
  subst wanted
  have taken := follows.take fresh request
  have parts := Traffic.partsOf_submit follows.sound request
  rw [follows.config] at parts
  -- First the traffic takes the body in, and then its calls take the steps of the relay.
  obtain ⟨moves, own, shadowed, progresses⟩ :=
    Relay.exists_startEntries ticket taken.shadows fun i part call number present made =>
      follows.naming_of_submit ticket present made
  obtain ⟨events, reached⟩ := Traffic.exists_events taken.sound fun move member => by
    obtain ⟨number, -, of⟩ := own move member
    exact ⟨number, of⟩
  have sound := Traffic.sound_run taken.sound events
  refine ⟨.submit request :: events, Function.update body ticket t.bodies, ?_⟩
  show Relay.Follows _ ((t.step (.submit request)).run events) _ _
  rw [reached] at sound ⊢
  obtain ⟨timeline, metrics, started⟩ :=
    relay.exists_startEntries_eq ticket (Traffic.entries relay.config request) 0
  refine ⟨sound, taken.asked, ?_, ?_, ?_, ?_, shadowed, ?_⟩
  · rw [started]
    exact follows.config
  · intro f inside
    rcases List.mem_append.1 inside with old | new
    · exact taken.started f old
    · rw [List.mem_singleton.1 new, Function.update_self]
      exact Nat.lt_succ_self _
  · rw [List.map_append, List.nodup_append]
    refine ⟨taken.apart, List.nodup_singleton _, ?_⟩
    intro first member second new
    obtain ⟨f, inside, rfl⟩ := List.mem_map.1 member
    rw [List.mem_singleton.1 new]
    show Function.update body ticket t.bodies f.ticket ≠
      Function.update body ticket t.bodies ticket
    rw [Function.update_self, Function.update_of_ne (fresh f inside)]
    exact Nat.ne_of_lt (follows.started f inside)
  · intro f inside
    rcases List.mem_append.1 inside with old | new
    · rw [taken.entries f old]
      apply List.map_congr_left
      intro part member
      rw [Function.update_of_ne (fresh f old), Traffic.partsOf_step (follows.started f old)]
        at member
      exact (follows.progress_older request own member).symm
    · rw [List.mem_singleton.1 new]
      show _ = ((t.step (.submit request)).partsOf
        (Function.update body ticket t.bodies ticket)).map _
      rw [Function.update_self, parts]
      exact progresses
  · intro w member
    rcases Relay.mem_readers_startEntries member with old | ⟨i, call, key, asks⟩
    · obtain ⟨⟨f, inside, named⟩, call⟩ := taken.owned w old
      exact ⟨⟨f, List.mem_append_left _ inside, named⟩, call⟩
    · obtain ⟨part, number, present, made⟩ := Part.exists_made_number asks
      rw [key, Nat.zero_add]
      refine ⟨⟨_, List.mem_append_right _ (List.mem_singleton_self _), rfl⟩, part, call, number, ?_,
        made⟩
      rw [Function.update_self]
      exact parts ▸ present

theorem submit (follows : relay.Follows t body asked) {ticket : Ticket}
    (fresh : ∀ f ∈ relay.inFlight, f.ticket ≠ ticket) {request : HttpRequest}
    {entries : List Entry} (wanted : Traffic.entries relay.config request = entries)
    (isBatch : Bool) :
    ∃ events body', (relay.submit ticket isBatch entries).1.Follows (t.run events) body'
      (asked ++ entries) ∧
      ∀ x ∈ (relay.submit ticket isBatch entries).2, (t.run events).Gives x.response := by
  obtain ⟨timeline, metrics, started⟩ := relay.exists_startEntries_eq ticket entries 0
  have same : (relay.startEntries ticket entries 0).1.inFlight = relay.inFlight := by rw [started]
  obtain ⟨events, body', begun⟩ := follows.start fresh wanted
    (relay.startEntries ticket entries 0).1.timeline.now isBatch
  rw [← same] at begun
  unfold Relay.submit
  dsimp only
  split
  · next done =>
    obtain ⟨response, answered, rfl⟩ := Option.map_eq_some_iff.1 done
    -- Nothing of it waits, so the relay does not keep it.
    have own : (t.run events).Gives response :=
      begun.gives (List.mem_append_right _ (List.mem_singleton_self _)) answered
    have alone : (relay.startEntries ticket entries 0).1.Follows (t.run events) body'
        (asked ++ entries) := by
      apply begun.retire (List.sublist_append_left _ _)
      intro f inside unanswered
      rcases List.mem_append.1 inside with old | new
      · exact old
      · rw [List.mem_singleton.1 new, answered] at unanswered
        exact nomatch unanswered
    obtain ⟨later, followed, given⟩ := alone.resume ticket entries.length
    refine ⟨events ++ later, body', ?_, ?_⟩
    · rw [Traffic.run_append]
      exact followed
    · rw [Traffic.run_append]
      intro x member
      rcases List.mem_cons.1 member with rfl | other
      · exact own.run later
      · exact given x other
  · obtain ⟨later, followed, given⟩ := begun.resume ticket entries.length
    refine ⟨events ++ later, body', ?_, ?_⟩
    · rw [Traffic.run_append]
      exact followed
    · rw [Traffic.run_append]
      exact given

/-- `begin` follows some events of the traffic; a response is one that the submission was answered
with at once, or one that the traffic `Gives`. -/
theorem begin (follows : relay.Follows t body asked) {ticket : Ticket}
    (fresh : ∀ f ∈ relay.inFlight, f.ticket ≠ ticket) (request : HttpRequest) :
    ∃ events body', (relay.begin ticket request).1.Follows (t.run events) body'
      (asked ++ Traffic.entries relay.config request) ∧
      ∀ x ∈ (relay.begin ticket request).2,
        relay.submission request = .answered x.response ∨ (t.run events).Gives x.response := by
  have wanted := relay.entries_submission request
  unfold Relay.begin
  dsimp only
  -- What is answered without being submitted asks for nothing.
  cases submission : relay.submission request with
  | answered response =>
    rw [submission] at wanted
    refine ⟨[], body, ?_, ?_⟩
    · rw [← wanted]
      exact (List.append_nil asked).symm ▸ follows
    · intro x member
      rw [List.mem_singleton.1 member]
      exact .inl rfl
  | single entry =>
    rw [submission] at wanted
    obtain ⟨events, body', followed, given⟩ := follows.submit fresh wanted.symm false
    exact ⟨events, body', wanted ▸ followed, fun x member => .inr (given x member)⟩
  | batch entries =>
    rw [submission] at wanted
    obtain ⟨events, body', followed, given⟩ := follows.submit fresh wanted.symm true
    exact ⟨events, body', wanted ▸ followed, fun x member => .inr (given x member)⟩

/-! ### Requests that are dropped -/

/-- Dropping the body of `ticket`, if it has one, drops calls at some `places` of the traffic, and
only of that body. -/
theorem exists_dropped (relay : Relay) (t : Traffic) (body : Ticket → Nat) (ticket : Ticket) :
    ∃ (events : List Traffic.Event) (places : List Nat),
      t.run events =
        { t with interleaving := t.interleaving.run (places.map Move.drop) } ∧
      ∀ number ∈ places, ∃ f ∈ relay.inFlight, f.ticket = ticket ∧
        ∃ part ∈ t.partsOf (body ticket), ∃ call, part.made = some (call, number) := by
  -- A ticket that is not in use stands for no body, and nothing is dropped.
  by_cases present : ∃ f ∈ relay.inFlight, f.ticket = ticket
  · obtain ⟨f, inside, named⟩ := present
    refine ⟨[.abort (body ticket)], t.callsOf (body ticket), rfl, ?_⟩
    intro number member
    obtain ⟨⟨call, _⟩, made, rfl⟩ := List.mem_map.1 member
    obtain ⟨part, inBody, made⟩ := List.mem_filterMap.1 made
    exact ⟨f, inside, named, part, inBody, call, made⟩
  · exact ⟨[], [], rfl, fun number member => nomatch member⟩

/-- `abort` follows some events of the traffic. -/
theorem abort (follows : relay.Follows t body asked) (ticket : Ticket) :
    ∃ events, (relay.abort ticket).Follows (t.run events) body asked := by
  obtain ⟨events, places, reached, dropped⟩ := exists_dropped relay t body ticket
  -- The calls of other bodies are none of those that are dropped.
  have others : ∀ f ∈ relay.inFlight, f.ticket ≠ ticket → ∀ (i : Nat) (part : Part) (call : Call)
      (number : Nat), (t.partsOf (body f.ticket))[i]? = some part →
        part.made = some (call, number) → number ∉ places := by
    intro f inside apart i part call number present made member
    obtain ⟨g, held, rfl, twin, inBody, next, madeToo⟩ := dropped number member
    obtain ⟨place, presentToo⟩ := List.mem_iff_getElem?.1 inBody
    obtain ⟨same, _⟩ := Traffic.eq_of_number follows.sound present made presentToo madeToo
    exact apart (congrArg InFlight.ticket (follows.eq_of_body inside held same))
  have sound := Traffic.sound_run follows.sound events
  refine ⟨events, ?_⟩
  rw [reached] at sound ⊢
  refine ⟨sound, follows.asked, follows.config, ?_, ?_, ?_, ?_, ?_⟩
  · intro f inside
    exact follows.started f (List.mem_filter.1 inside).1
  · exact follows.apart.sublist (List.filter_sublist.map _)
  · intro f inside
    obtain ⟨inside, kept⟩ := List.mem_filter.1 inside
    rw [follows.entries f inside]
    apply List.map_congr_left
    intro part member
    obtain ⟨i, present⟩ := List.mem_iff_getElem?.1 member
    symm
    apply Part.progress_run_of_others
    intro call number made move moved
    have left := others f inside (by simpa using kept) i part call number present made
    obtain ⟨other, dropped, rfl⟩ := List.mem_map.1 moved
    exact ⟨other, fun same => left (same ▸ dropped), rfl⟩
  · apply follows.shadows.drop (fun key => key.1 == ticket)
    intro w member kept
    obtain ⟨⟨f, inside, named⟩, part, call, number, present, made⟩ := follows.owned w member
    rw [Traffic.numberOf, Traffic.number_of_made present made]
    rw [← named] at kept present
    exact others f inside (by simpa using kept) _ part call number present made
  · intro w member
    have kept : w ∈ relay.timeline.readers.filter fun w => !(w.key.1 == ticket) := by
      rw [Timeline.readers, List.filter_append]
      exact member
    obtain ⟨old, kept⟩ := List.mem_filter.1 kept
    obtain ⟨⟨f, inside, named⟩, call⟩ := follows.owned w old
    exact ⟨⟨f, List.mem_filter.2 ⟨inside, named ▸ kept⟩, named⟩, call⟩

end Relay.Follows

/-! ### One operation after the other -/

namespace Relay

/-- What is done to a relay: a `request` comes in under a `ticket`, the requests of a `ticket` are
dropped where they wait, or time passes. -/
inductive Operation
  | begin (ticket : Ticket) (request : HttpRequest)
  | abort (ticket : Ticket)
  | pass (millis : Nat)

/-- The relay after an operation, with the submissions that are answered by it. -/
def operate (relay : Relay) : Operation → Relay × List Finished
  | .begin ticket request => relay.begin ticket request
  | .abort ticket => (relay.abort ticket, [])
  | .pass millis => relay.pass millis

/-- The relay after operations one after the other, with all that is answered. -/
def operateAll (relay : Relay) : List Operation → Relay × List Finished
  | [] => (relay, [])
  | operation :: operations =>
    let (relay, finished) := relay.operate operation
    let (relay, later) := relay.operateAll operations
    (relay, finished ++ later)

/-- No request comes in under a ticket that is still in use. -/
def Admits (relay : Relay) : List Operation → Prop
  | [] => True
  | operation :: operations =>
    (∀ ticket request, operation = .begin ticket request →
      ∀ f ∈ relay.inFlight, f.ticket ≠ ticket) ∧ (relay.operate operation).1.Admits operations

theorem operateAll_append (relay : Relay) (operations later : List Operation) :
    relay.operateAll (operations ++ later) =
      (((relay.operateAll operations).1.operateAll later).1,
        (relay.operateAll operations).2 ++
          ((relay.operateAll operations).1.operateAll later).2) := by
  induction operations generalizing relay with
  | nil => rfl
  | cons operation operations ih => simp [operateAll, ih, List.append_assoc]

theorem admits_append {relay : Relay} {operations later : List Operation} :
    relay.Admits (operations ++ later) ↔
      relay.Admits operations ∧ (relay.operateAll operations).1.Admits later := by
  induction operations generalizing relay with
  | nil => simp [Admits, operateAll]
  | cons operation operations ih => simp [Admits, operateAll, ih, and_assoc]

/-- The entries that an operation asks for. -/
def Operation.entries (config : Config) : Operation → List Entry
  | .begin _ request => Traffic.entries config request
  | .abort _ | .pass _ => []

theorem follows_start (config : Config) (wording : Wording) (body : Ticket → Nat) :
    (start config wording).Follows (.start config) body [] where
  sound := Traffic.sound_start config
  asked := rfl
  config := rfl
  started := fun _ inside => nomatch inside
  apart := List.nodup_nil
  entries := fun _ inside => nomatch inside
  shadows := Timeline.Shadows.empty _
  owned := fun _ member => nomatch member

variable {relay : Relay} {t : Traffic} {body : Ticket → Nat} {asked : List Entry}

/-- `operate` follows some events of the traffic; a response is one that a submission was answered
with at once, or one that the traffic `Gives`. -/
theorem Follows.operate (follows : relay.Follows t body asked) {operation : Operation}
    (fresh : ∀ ticket request, operation = .begin ticket request →
      ∀ f ∈ relay.inFlight, f.ticket ≠ ticket) :
    ∃ events body', (relay.operate operation).1.Follows (t.run events) body'
        (asked ++ operation.entries relay.config) ∧
      ∀ x ∈ (relay.operate operation).2,
        (∃ ticket request, operation = .begin ticket request ∧
          relay.submission request = .answered x.response) ∨ (t.run events).Gives x.response := by
  -- Only a request brings new entries; a client that leaves and time that passes bring none.
  cases operation with
  | begin ticket request =>
    obtain ⟨events, body', followed, given⟩ := follows.begin (fresh ticket request rfl) request
    refine ⟨events, body', followed, ?_⟩
    intro x member
    exact (given x member).imp_left fun answered => ⟨ticket, request, rfl, answered⟩
  | abort ticket =>
    obtain ⟨events, followed⟩ := follows.abort ticket
    refine ⟨events, body, ?_, fun x member => nomatch member⟩
    rw [Operation.entries, List.append_nil]
    exact followed
  | pass millis =>
    obtain ⟨events, followed, given⟩ := follows.pass millis
    refine ⟨events, body, ?_, fun x member => .inr (given x member)⟩
    rw [Operation.entries, List.append_nil]
    exact followed

theorem Follows.operateAll (follows : relay.Follows t body asked) {operations : List Operation}
    (admits : relay.Admits operations) :
    ∃ events body', (relay.operateAll operations).1.Follows (t.run events) body'
        (asked ++ operations.flatMap (Operation.entries relay.config)) ∧
      ∀ x ∈ (relay.operateAll operations).2,
        (∃ before ticket request after, operations = before ++ .begin ticket request :: after ∧
          (relay.operateAll before).1.submission request = .answered x.response) ∨
        (t.run events).Gives x.response := by
  induction operations generalizing relay t body asked with
  | nil => exact ⟨[], body, (List.append_nil asked).symm ▸ follows, fun x member => nomatch member⟩
  | cons operation operations ih =>
    obtain ⟨fresh, admits⟩ := admits
    obtain ⟨events, next, followed, given⟩ := follows.operate fresh
    have same : (relay.operate operation).1.config = relay.config := by
      rw [← followed.config, Traffic.config_run, follows.config]
    obtain ⟨later, body', reached, answers⟩ := ih followed admits
    rw [same, List.append_assoc] at reached
    refine ⟨events ++ later, body', ?_, ?_⟩
    · rw [Traffic.run_append]
      exact reached
    · rw [Traffic.run_append]
      intro x member
      -- An answer is given by this operation or by one that comes after it.
      rcases List.mem_append.1 member with now | after
      · rcases given x now with ⟨ticket, request, rfl, answered⟩ | gives
        · exact .inl ⟨[], ticket, request, operations, rfl, answered⟩
        · exact .inr (gives.run later)
      · rcases answers x after with ⟨before, ticket, request, rest, rfl, answered⟩ | gives
        · exact .inl ⟨operation :: before, ticket, request, rest, rfl, answered⟩
        · exact .inr gives

/-- **A relay is its calls side by side.** For all `operations` there are `events` of the traffic,
in which the same entries are asked for in the same order, such that the registries are the same.
Every response is one that a submission was answered with at once, or one that the traffic
`Gives`. -/
theorem exists_traffic (config : Config) (wording : Wording) {operations : List Operation}
    (admits : (start config wording).Admits operations) :
    ∃ events : List Traffic.Event,
      ((start config wording).operateAll operations).1.timeline.registry =
        ((Traffic.start config).run events).interleaving.registry ∧
      ((Traffic.start config).run events).parts.map Part.entry =
        operations.flatMap (Operation.entries config) ∧
      ∀ x ∈ ((start config wording).operateAll operations).2,
        (∃ before ticket request after, operations = before ++ .begin ticket request :: after ∧
          ((start config wording).operateAll before).1.submission request = .answered x.response) ∨
        ((Traffic.start config).run events).Gives x.response := by
  obtain ⟨events, body, followed, given⟩ :=
    (follows_start config wording fun _ => 0).operateAll admits
  exact ⟨events, followed.shadows.registry, followed.asked, given⟩

end Relay

end StateChannel
