import StateChannel.Proofs.Relay.Ledger

/-!
# The accounts of a relay

Every request that reaches its method ends, or waits, or is stopped where it waits, and only those
that end are counted. So the counters of a relay can be told from what has been asked of it and from
what its logs hold.

## Main definitions

* `Entry.callId?`: the id of a request that reaches its method
* `Relay.waitingIds`, `Relay.stopped`: requests that wait, and those that are stopped
* `Registry.size`: the number of messages in all logs

## Main results

* `Relay.callIds_operateAll`: every request ends, waits or is stopped
* `Relay.size_operateAll`: the logs hold what the sends that have ended have stored
* `Relay.metrics_account`: what the counters of a relay are
-/

namespace StateChannel

/-- The `id` of an entry that reaches its method: `none` for a refused entry, `some none` for a
notification. -/
def Entry.callId? : Entry → Option (Option Json)
  | .refused _ => none
  | .call id _ _ => some id

/-- `Entry.ofJson value` reaches a method exactly when `value` is an object whose `method` is a
string and whose `id`, if there is one, satisfies `Entry.IsId`. -/
theorem Entry.callId?_ofJson_eq_some_iff {value : Json} {id : Option Json} :
    (Entry.ofJson value).callId? = some id ↔ ∃ members method, value = .object members ∧
      Members.find? "id" members = id ∧ (∀ i ∈ id, Entry.IsId i) ∧
        Members.find? "method" members = some (.string method) := by
  constructor
  · intro reaches
    unfold Entry.ofJson at reaches
    split at reaches
    · next members =>
      dsimp only at reaches
      split at reaches
      · next proper =>
        split at reaches
        · next method named =>
          obtain rfl := Option.some.inj reaches
          exact ⟨members, method, rfl, rfl, proper, named⟩
        · cases reaches
      · cases reaches
    · cases reaches
  · rintro ⟨members, method, rfl, rfl, proper, named⟩
    simp only [Entry.ofJson, if_pos proper, named, callId?]

/-- The `id` of an entry that waits; `none` for one that is `done`. -/
def Progress.waitingId? : Progress → Option (Option Json)
  | .done _ => none
  | .waiting id => some id

/-! ### All logs -/

/-- The number of messages in all logs of `r` together. -/
def Registry.size (r : Registry) : Nat :=
  r.channels.foldr (fun channel others => channel.log.seq + others) 0

namespace Registry

theorem size_enter (r : Registry) (name : String) : (r.enter name).1.size = r.size := by
  rw [enter_eq_create]
  unfold create
  split
  · rfl
  · simp [size, Log.empty, Log.seq]

/-- Appending `message` to the log of channel `i` adds one to the sum of all lengths. -/
theorem foldr_seq_modify_append (message : Json) (channels : List Channel) (i : Nat)
    (inside : i < channels.length) :
    (channels.modify i fun channel => { channel with log := channel.log.append message }).foldr
        (fun channel others => channel.log.seq + others) 0 =
      channels.foldr (fun channel others => channel.log.seq + others) 0 + 1 := by
  induction channels generalizing i with
  | nil => cases inside
  | cons channel channels ih =>
    cases i with
    | zero =>
      rw [List.modify_zero_cons, List.foldr_cons, List.foldr_cons, Log.seq_append]
      omega
    | succ i =>
      have rest := ih i (Nat.lt_of_succ_lt_succ inside)
      rw [List.modify_succ_cons, List.foldr_cons, List.foldr_cons, rest]
      omega

theorem size_update_append {r : Registry} {id : LogId} (inside : id < r.count) (message : Json) :
    (r.update id (·.append message)).size = r.size + 1 :=
  foldr_seq_modify_append message r.channels id inside

end Registry

namespace Relay

variable {relay : Relay} {ticket : Ticket}

/-- Invoking `call` adds one message when it ends at once in `.sent`, and none otherwise. -/
theorem size_invoke (t : Timeline Place) (timeout : Duration) (key : Place) (call : Call)
    (id : Option Json) :
    (invoke t timeout key call).1.registry.size = t.registry.size +
      ((invoke t timeout key call).2.map fun outcome =>
        (⟨id, .ok outcome⟩ : Ended)).toList.countP Ended.hasSent := by
  cases call with
  | send channel message =>
    have inside := Registry.lt_count_of_find? (Registry.find?_enter t.registry channel)
    exact (Registry.size_update_append inside message).trans
      (congrArg (· + 1) (t.registry.size_enter channel))
  | getSeq channel => exact t.registry.size_enter channel
  | receive channel start =>
    show (t.receive key channel start.toNat timeout.wait).1.registry.size = _
    rw [Timeline.registry_receive, Registry.size_enter]
    simp only [invoke]
    cases (t.receive key channel start.toNat timeout.wait).2 <;> rfl

theorem size_startEntry (relay : Relay) (key : Place) (entry : Entry) :
    (relay.startEntry key entry).1.timeline.registry.size =
      relay.timeline.registry.size + (relay.endsAtOnce? key entry).toList.countP Ended.hasSent := by
  cases entry with
  | refused answer => rfl
  | call id method params =>
    cases routed : Call.route method params with
    | error e =>
      simp only [startEntry, endsAtOnce?, routed]
      rfl
    | ok call =>
      have stored := size_invoke relay.timeline relay.config.receiveTimeout key call id
      simp only [startEntry, endsAtOnce?, routed]
      split <;> exact stored

theorem size_startEntries (relay : Relay) (ticket : Ticket) (entries : List Entry) (first : Nat) :
    (relay.startEntries ticket entries first).1.timeline.registry.size =
      relay.timeline.registry.size +
        (relay.endAtOnce ticket entries first).countP Ended.hasSent := by
  induction entries generalizing relay first with
  | nil => rfl
  | cons entry entries ih =>
    refine (ih (relay.startEntry (ticket, first) entry).1 (first + 1)).trans ?_
    rw [size_startEntry, endAtOnce, List.countP_append, Nat.add_assoc]

/-- Calls that end by a delivery are readers, so none of them `hasSent`. -/
theorem countP_hasSent_endsWith (relay : Relay) (deliveries : List (Delivery Place)) :
    (deliveries.map relay.endsWith).countP Ended.hasSent = 0 := by
  rw [List.countP_map]
  exact List.countP_eq_zero.2 fun _ _ => Bool.false_ne_true

theorem size_submit (steady : relay.Steady) (ticket : Ticket) (isBatch : Bool)
    (entries : List Entry) :
    (relay.submit ticket isBatch entries).1.timeline.registry.size =
      relay.timeline.registry.size +
        (relay.endedIn ticket isBatch entries).countP Ended.hasSent := by
  rw [timeline_submit steady, Timeline.registry_resume, size_startEntries, endedIn,
    List.countP_append, countP_hasSent_endsWith, Nat.add_zero]

theorem size_operate (steady : relay.Steady) (operation : Operation) :
    (relay.operate operation).1.timeline.registry.size =
      relay.timeline.registry.size + (relay.ended operation).countP Ended.hasSent := by
  cases operation with
  | begin ticket request =>
    show (relay.begin ticket request).1.timeline.registry.size = _
    rcases relay.begin_cases ticket request with
      ⟨same, none, -⟩ | ⟨isBatch, entries, -, same, all⟩
    · rw [same, none]
      rfl
    · rw [same, all]
      exact size_submit steady ticket isBatch entries
  | abort ticket => rfl
  | pass millis =>
    show (relay.pass millis).1.timeline.registry.size = _
    rw [timeline_pass, Timeline.registry_pass, Relay.ended, countP_hasSent_endsWith]
    rfl

/-- **The logs hold what the sends that have ended have stored**: `Registry.size` grows over
`operations` by the number of calls in `endedAll` that `hasSent`. -/
theorem size_operateAll (steady : relay.Steady) {operations : List Operation}
    (admits : relay.Admits operations) :
    (relay.operateAll operations).1.timeline.registry.size =
      relay.timeline.registry.size + (relay.endedAll operations).countP Ended.hasSent := by
  induction operations generalizing relay with
  | nil => rfl
  | cons operation operations ih =>
    refine (ih (steady.operate admits.1) admits.2).trans ?_
    rw [size_operate steady, endedAll, List.countP_append, Nat.add_assoc]

/-! ### What has become of every request -/

/-- The `id`s of the requests that wait in `relay`, one for each reader. -/
def waitingIds (relay : Relay) : List (Option Json) :=
  relay.timeline.waits.map fun w => relay.idAt w.key

/-- The `id`s of the requests that an operation stops where they wait; only `.abort` stops any. -/
def stopped (relay : Relay) : Operation → List (Option Json)
  | .abort ticket => (relay.timeline.waits.filter fun w => w.key.1 == ticket).map fun w =>
      relay.idAt w.key
  | .begin _ _ | .pass _ => []

/-- The `id`s of the requests that are stopped in the course of `operations`. -/
def stoppedAll (relay : Relay) : List Operation → List (Option Json)
  | [] => []
  | operation :: operations =>
    relay.stopped operation ++ (relay.operate operation).1.stoppedAll operations

theorem map_waitingPlaces {ids : Place → Option Json} {first : Nat} {entries : List Progress}
    (same : ∀ i id, entries[i]? = some (.waiting id) → ids (ticket, first + i) = id) :
    (waitingPlaces ticket first entries).map ids = entries.filterMap Progress.waitingId? := by
  induction entries generalizing first with
  | nil => rfl
  | cons progress entries ih =>
    have rest := @ih (first + 1) fun i id found => by
      rw [Nat.add_right_comm, Nat.add_assoc]
      exact same (i + 1) id found
    cases progress with
    | done answer => exact rest
    | waiting id => exact congrArg₂ List.cons (same 0 id rfl) rest

/-- An entry that reaches its method either ends at once (`endsAtOnce?`) or waits (`waitingId?`),
and not both. -/
theorem callId_startEntry (relay : Relay) (key : Place) (entry : Entry) :
    entry.callId?.toList = ((relay.endsAtOnce? key entry).toList.map (·.id)) ++
      (relay.startEntry key entry).2.waitingId?.toList := by
  cases entry with
  | refused answer => rfl
  | call id method params =>
    cases routed : Call.route method params with
    | error e =>
      simp only [startEntry, endsAtOnce?, routed]
      rfl
    | ok call =>
      simp only [startEntry, endsAtOnce?, routed]
      cases (invoke relay.timeline relay.config.receiveTimeout key call).2 <;> rfl

theorem callIds_startEntries (relay : Relay) (ticket : Ticket) (entries : List Entry)
    (first : Nat) :
    (entries.filterMap Entry.callId?).Perm
      ((relay.endAtOnce ticket entries first).map (·.id) ++
        (relay.startEntries ticket entries first).2.filterMap Progress.waitingId?) := by
  induction entries generalizing relay first with
  | nil => exact List.Perm.refl _
  | cons entry entries ih =>
    have rest := ih (relay.startEntry (ticket, first) entry).1 (first + 1)
    -- Those that end and those that wait come mixed, so the lists agree only up to their order.
    have all (progress : Progress) (others : List Progress) :
        (progress :: others).filterMap Progress.waitingId? =
          progress.waitingId?.toList ++ others.filterMap Progress.waitingId? := by
      cases progress <;> rfl
    have both : (entry :: entries).filterMap Entry.callId? =
        entry.callId?.toList ++ entries.filterMap Entry.callId? := by
      cases entry <;> rfl
    rw [both, callId_startEntry relay (ticket, first), endAtOnce, List.map_append]
    refine (rest.append_left _).trans ?_
    refine List.Perm.trans ?_ (List.Perm.of_eq (congrArg (_ ++ ·) (all _ _).symm))
    simp only [List.append_assoc]
    exact (List.perm_append_comm_assoc _ _ _).append_left _

/-- As long as no `id` comes to wait at a place where it did not wait in `relay`, the waiting `id`s
of `later` are those that `relay` has at the same places. -/
theorem Steady.waitingIds_eq {later : Relay} (steady : later.Steady)
    (apart : (relay.inFlight.map InFlight.ticket).Nodup)
    (old : ∀ key id, later.WaitsFor key id → relay.WaitsFor key id) :
    later.waitingIds = later.timeline.waits.map fun w => relay.idAt w.key := by
  apply List.map_congr_left
  intro w waits
  have here := List.mem_map_of_mem (f := fun w : Wait Place => w.key)
    (List.mem_append_right later.timeline.woken waits)
  exact idAt_eq apart steady.attends.apart ((steady.attends.waits w.key).1 here) (old w.key)

section Submitting

variable {isBatch : Bool} {entries : List Entry} {key : Place} {id : Option Json}

theorem WaitsFor.taking (waits : relay.WaitsFor key id) (ticket : Ticket) (isBatch : Bool)
    (entries : List Entry) : (relay.taking ticket isBatch entries).WaitsFor key id := by
  obtain ⟨f, inside, rest⟩ := waits
  exact ⟨f, List.mem_append_left _ inside, rest⟩

theorem WaitsFor.of_submit (steady : relay.Steady)
    (waits : (relay.submit ticket isBatch entries).1.WaitsFor key id) :
    (relay.taking ticket isBatch entries).WaitsFor key id := by
  rw [submit_eq steady.unanswered] at waits
  have settled := @WaitsFor.of_settleAll { relay.taking ticket isBatch entries with
    timeline := (relay.taking ticket isBatch entries).timeline.resume.1
    inFlight := (relay.taking ticket isBatch entries).inFlight.filter fun f => f.response?.isNone }
    _ _ _ waits
  exact WaitsFor.of_retire settled

/-- After `taking` a submission, the readers of all kinds carry the `id`s that waited before and
those of the new entries that wait. -/
theorem Steady.idAt_taking_perm (steady : relay.Steady)
    (fresh : ∀ f ∈ relay.inFlight, f.ticket ≠ ticket) :
    let taking := relay.taking ticket isBatch entries
    (taking.timeline.readers.map fun w => taking.idAt w.key).Perm
      (relay.waitingIds ++
        (relay.startEntries ticket entries 0).2.filterMap Progress.waitingId?) := by
  intro taking
  have taken : taking.Attends (taking.timeline.readers.map (·.key)) :=
    steady.attends_taking fresh isBatch entries
  have new : (waitingPlaces ticket 0 (relay.startEntries ticket entries 0).2).map taking.idAt =
      (relay.startEntries ticket entries 0).2.filterMap Progress.waitingId? := by
    apply map_waitingPlaces
    intro i id found
    refine idAt_of_waitsFor taken.apart
      ⟨_, List.mem_append_right _ (List.mem_singleton_self _), rfl, ?_⟩
    rwa [Nat.zero_add]
  have keys := (relay.starts_startEntries ticket entries 0).readers.map taking.idAt
  rw [List.map_append, new, List.map_map, List.map_map, steady.readers_eq] at keys
  rw [steady.waitingIds_eq taken.apart fun key id waits => waits.taking ticket isBatch entries]
  exact keys

/-- **Every request that comes in** either ends or waits: the `id`s that waited before and those of
`entries` are, in some order, those that end in `submit` and those that wait after it. -/
theorem Steady.callIds_submit (steady : relay.Steady)
    (fresh : ∀ f ∈ relay.inFlight, f.ticket ≠ ticket) (isBatch : Bool) (entries : List Entry) :
    (relay.waitingIds ++ entries.filterMap Entry.callId?).Perm
      ((relay.endedIn ticket isBatch entries).map (·.id) ++
        (relay.submit ticket isBatch entries).1.waitingIds) := by
  let taking := relay.taking ticket isBatch entries
  have steadily := steady.submit fresh isBatch entries
  have after : (relay.submit ticket isBatch entries).1.waitingIds =
      taking.timeline.waits.map fun w => taking.idAt w.key := by
    rw [steadily.waitingIds_eq (steady.attends_taking fresh isBatch entries).apart
      fun key id waits => waits.of_submit steady, timeline_submit steady]
    rfl
  -- Who goes on has waited when everything had started, under the id that it has there.
  have woken : (taking.timeline.resume.2.map taking.endsWith).map (·.id) =
      taking.timeline.woken.map fun w => taking.idAt w.key := by
    rw [List.map_map, Timeline.resume, List.map_map]
    rfl
  calc List.Perm (relay.waitingIds ++ entries.filterMap Entry.callId?)
        (relay.waitingIds ++ ((relay.endAtOnce ticket entries 0).map (·.id) ++
          (relay.startEntries ticket entries 0).2.filterMap Progress.waitingId?)) :=
        (callIds_startEntries relay ticket entries 0).append_left _
    List.Perm _ ((relay.endAtOnce ticket entries 0).map (·.id) ++ (relay.waitingIds ++
          (relay.startEntries ticket entries 0).2.filterMap Progress.waitingId?)) :=
        List.perm_append_comm_assoc _ _ _
    List.Perm _ ((relay.endAtOnce ticket entries 0).map (·.id) ++
          taking.timeline.readers.map fun w => taking.idAt w.key) :=
        (steady.idAt_taking_perm fresh).symm.append_left _
    _ = (relay.endedIn ticket isBatch entries).map (·.id) ++
          (relay.submit ticket isBatch entries).1.waitingIds := by
        rw [after, endedIn, List.map_append, woken, List.append_assoc, ← List.map_append]
        rfl

end Submitting

section Operations

variable {operation : Operation} {operations : List Operation}

theorem Steady.callIds_abort (steady : relay.Steady) (ticket : Ticket) :
    relay.waitingIds.Perm (relay.stopped (.abort ticket) ++ (relay.abort ticket).waitingIds) := by
  have old (key : Place) (id : Option Json) (waits : (relay.abort ticket).WaitsFor key id) :
      relay.WaitsFor key id := by
    obtain ⟨f, inside, rest⟩ := waits
    exact ⟨f, (List.mem_filter.1 inside).1, rest⟩
  rw [(steady.abort ticket).waitingIds_eq steady.attends.apart old]
  have parts := List.filter_append_perm (fun w : Wait Place => w.key.1 == ticket)
    relay.timeline.waits
  have ids := parts.symm.map fun w => relay.idAt w.key
  rw [List.map_append] at ids
  exact ids

theorem Steady.callIds_pass (steady : relay.Steady) (millis : Nat) :
    relay.waitingIds.Perm
      ((relay.ended (.pass millis)).map (·.id) ++ (relay.pass millis).1.waitingIds) := by
  have old (key : Place) (id : Option Json) (waits : (relay.pass millis).1.WaitsFor key id) :
      relay.WaitsFor key id :=
    @WaitsFor.of_settleAll { relay with timeline := (relay.timeline.pass millis).1 } _ _ _ waits
  rw [(steady.pass millis).waitingIds_eq steady.attends.apart old, timeline_pass]
  let due := relay.timeline.waits.filter fun w => w.deadline ≤ relay.timeline.now + millis
  let staying := relay.timeline.waits.filter fun w => ¬ w.deadline ≤ relay.timeline.now + millis
  -- Readers leave in the order of their deadlines, not in that in which they came.
  have leaving : ((relay.ended (.pass millis)).map (·.id)).Perm
      (due.map fun w => relay.idAt w.key) := by
    rw [Relay.ended, List.map_map, Timeline.pass, List.map_map]
    exact (List.mergeSort_perm due _).map _
  have split : (due ++ staying).Perm relay.timeline.waits := by
    have parts := List.filter_append_perm
      (fun w : Wait Place => w.deadline ≤ relay.timeline.now + millis) relay.timeline.waits
    simpa only [due, staying, decide_not] using parts
  have ids := split.symm.map fun w => relay.idAt w.key
  rw [List.map_append] at ids
  exact ids.trans (leaving.symm.append_right _)

theorem Steady.callIds_operate (steady : relay.Steady)
    (fresh : ∀ ticket request, operation = .begin ticket request →
      ∀ f ∈ relay.inFlight, f.ticket ≠ ticket) :
    (relay.waitingIds ++ (operation.entries relay.config).filterMap Entry.callId?).Perm
      ((relay.ended operation).map (·.id) ++ relay.stopped operation ++
        (relay.operate operation).1.waitingIds) := by
  cases operation with
  | begin ticket request =>
    rw [Operation.entries, ← relay.entries_submission, stopped, List.append_nil]
    show List.Perm _ (_ ++ (relay.begin ticket request).1.waitingIds)
    rcases relay.begin_cases ticket request with
      ⟨same, none, asks⟩ | ⟨isBatch, entries, asks, same, all⟩
    · rw [same, none, asks]
      exact List.Perm.of_eq (List.append_nil _)
    · rw [same, all, asks]
      exact steady.callIds_submit (fresh _ _ rfl) isBatch entries
  | abort ticket =>
    rw [Operation.entries, List.filterMap_nil, List.append_nil]
    exact steady.callIds_abort ticket
  | pass millis =>
    rw [Operation.entries, List.filterMap_nil, List.append_nil, stopped, List.append_nil]
    exact steady.callIds_pass millis

/-- **Every request that reaches its method** ends, is stopped, or waits: over all `operations` the
`id`s that waited at first and those that came in are, in some order, those of `endedAll`, those of
`stoppedAll` and those that wait in the end. -/
theorem Steady.callIds_operateAll (steady : relay.Steady) (admits : relay.Admits operations) :
    (relay.waitingIds ++
        (operations.flatMap (Operation.entries relay.config)).filterMap Entry.callId?).Perm
      ((relay.endedAll operations).map (·.id) ++ relay.stoppedAll operations ++
        (relay.operateAll operations).1.waitingIds) := by
  induction operations generalizing relay with
  | nil => exact List.Perm.of_eq (List.append_nil _)
  | cons operation operations ih =>
    have first := steady.callIds_operate admits.1
    have rest := ih (steady.operate admits.1) admits.2
    rw [config_operate] at rest
    rw [List.flatMap_cons, List.filterMap_append, endedAll, stoppedAll, List.map_append,
      ← List.append_assoc]
    refine (first.append_right _).trans ?_
    rw [List.append_assoc]
    refine (rest.append_left _).trans ?_
    simp only [List.append_assoc]
    exact (List.perm_append_comm_assoc _ _ _).append_left _

end Operations

/-! ### What is not counted -/

section Refused

variable {entries : List Entry}

/-- Starting `entries` none of which reaches its method leaves `relay` as it is. -/
theorem startEntries_of_refused (refused : ∀ entry ∈ entries, entry.callId? = none) (relay : Relay)
    (ticket : Ticket) (first : Nat) : (relay.startEntries ticket entries first).1 = relay := by
  induction entries generalizing first with
  | nil => rfl
  | cons entry entries ih =>
    have rest := ih (fun other member => refused other (List.mem_cons_of_mem _ member)) (first + 1)
    have none := refused entry List.mem_cons_self
    cases entry with
    | refused answer => exact rest
    | call id method params => cases none

theorem metrics_submit_of_refused (steady : relay.Steady)
    (refused : ∀ entry ∈ entries, entry.callId? = none) (ticket : Ticket) (isBatch : Bool) :
    (relay.submit ticket isBatch entries).1.metrics = relay.metrics := by
  -- Nothing has started, so nobody is woken and nothing is counted afterwards either.
  have started := startEntries_of_refused refused relay ticket 0
  have nobody : (relay.taking ticket isBatch entries).timeline.woken = [] := by
    rw [taking, started]
    exact steady.woken
  let kept : Relay := { relay.taking ticket isBatch entries with
    inFlight := (relay.taking ticket isBatch entries).inFlight.filter fun f => f.response?.isNone }
  rw [submit_eq steady.unanswered]
  show (kept.resume ticket entries.length).1.metrics = relay.metrics
  rw [resume_of_woken_eq_nil kept nobody]
  show (relay.startEntries ticket entries 0).1.metrics = relay.metrics
  rw [started]

/-- **What does not reach its method is not counted**: if no entry of `request` has a `callId?`,
the metrics after `begin` are those before. -/
theorem metrics_begin_of_refused (steady : relay.Steady) {request : HttpRequest}
    (refused : ∀ entry ∈ (relay.submission request).entries, entry.callId? = none)
    (ticket : Ticket) : (relay.begin ticket request).1.metrics = relay.metrics := by
  rcases relay.begin_cases ticket request with ⟨same, -⟩ | ⟨isBatch, entries, asks, same, -⟩
  · rw [same]
  · rw [asks] at refused
    rw [same]
    exact metrics_submit_of_refused steady refused ticket isBatch

end Refused

/-- **The counters of a relay account for its run.** Take any admitted `operations` and the relay
they have `reached`. Its metrics are those of the list `ended` of calls that have ended, in the
sense of `Metrics.Accounts`. In particular `total` is `succeeded + failed` and also `timed`, and
`messagesSent` is the number of messages in all logs. The `id`s of the requests that came in and
reach their method are, in some order, those of `ended`, those of `stoppedAll` and `waitingIds`; a
`value` reaches its method exactly when it is an object with a string for `method` and no improper
`id`. A request none of whose entries does so leaves the metrics as they are, and so does
`abort`. -/
theorem metrics_account (config : Config) (wording : Wording) {operations : List Operation}
    (admitted : (start config wording).Admits operations) {reached : Relay}
    (state : reached = ((start config wording).operateAll operations).1) :
    let ended := (start config wording).endedAll operations
    reached.metrics.Accounts ended ∧
    reached.metrics.total = reached.metrics.succeeded + reached.metrics.failed ∧
    reached.metrics.total = reached.metrics.timed ∧
    reached.metrics.messagesSent = .ofNat reached.timeline.registry.size ∧
    ((operations.flatMap (Operation.entries config)).filterMap Entry.callId?).Perm
      (ended.map (·.id) ++ (start config wording).stoppedAll operations ++ reached.waitingIds) ∧
    (∀ value id, (Entry.ofJson value).callId? = some id ↔ ∃ members method,
      value = .object members ∧ Members.find? "id" members = id ∧ (∀ i ∈ id, Entry.IsId i) ∧
        Members.find? "method" members = some (.string method)) ∧
    (∀ ticket request, (∀ entry ∈ (reached.submission request).entries, entry.callId? = none) →
      (reached.begin ticket request).1.metrics = reached.metrics) ∧
    ∀ ticket, (reached.abort ticket).metrics = reached.metrics := by
  subst state
  have steady := steady_start config wording
  have accounts : ((start config wording).operateAll operations).1.metrics.Accounts
      ((start config wording).endedAll operations) :=
    accounts_operateAll steady admitted Metrics.accounts_zero
  have size := size_operateAll steady admitted
  rw [show (start config wording).timeline.registry.size = 0 from rfl, Nat.zero_add] at size
  refine ⟨accounts, accounts.total_eq, accounts.total.trans accounts.timed.symm, ?_,
    steady.callIds_operateAll admitted, fun value id => Entry.callId?_ofJson_eq_some_iff,
    fun ticket request refused => ?_, fun ticket => abort_metrics _ ticket⟩
  · rw [accounts.messagesSent, size]
  · exact metrics_begin_of_refused (steady.operateAll admitted) refused ticket

/-- A batch of a `receive` on channel `a` and a `send` to channel `b` without an `id`. -/
def crossed : HttpRequest :=
  ⟨"POST", "/", [], ("[\x7b\"id\":1,\"method\":\"receive\",\"params\":[\"a\",0]\x7d," ++
    "\x7b\"method\":\"send\",\"params\":[\"b\",7]\x7d]").toUTF8⟩

/-- The case of `metrics_account` for `crossed` when it is aborted: its send has been counted, and
the reader that waited has not. -/
theorem metrics_account_crossed :
    let reached := ((start .standard .silent).operateAll
      [.begin .foreground crossed, .abort .foreground]).1
    reached.metrics.total = 1 ∧ reached.metrics.notifications = 1 ∧
      reached.metrics.messagesSent = 1 ∧ reached.metrics.emptyReceives = 0 := by
  intro reached
  have admitted : (start .standard .silent).Admits
      [.begin .foreground crossed, .abort .foreground] :=
    ⟨fun _ _ _ _ inside => (nomatch inside), fun _ _ impossible => (nomatch impossible), trivial⟩
  have ended : (start .standard .silent).endedAll [.begin .foreground crossed, .abort .foreground] =
      [⟨none, .ok .sent⟩] := rfl
  have account := (metrics_account .standard .silent admitted (show reached = _ from rfl)).1
  rw [ended] at account
  exact ⟨account.total, account.notifications, account.messagesSent, account.emptyReceives⟩

end Relay

end StateChannel
