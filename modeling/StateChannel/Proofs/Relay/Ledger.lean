import StateChannel.Proofs.Relay.Steady

/-!
# What a relay has counted

A relay counts a call when it ends: at once, or when its reader goes on. The counters are those of
the calls that have ended, as far as they go in 64 bits.

## Main definitions

* `Ended`: a call that has come to an end
* `Metrics.Accounts`: counters of calls
* `Relay.ended`, `Relay.endedAll`: the calls that end in operations

## Main results

* `Metrics.Accounts.count`: a call that ends is counted once in everything that it is
* `Relay.accounts_operateAll`: the counters are those of the calls that have ended
-/

namespace StateChannel

/-- A call that has ended, with its `id` and its `outcome`. -/
structure Ended where
  id : Option Json
  outcome : Except ApiError Outcome

namespace Ended

/-- A call without an `id` is a notification. -/
def isNotification (e : Ended) : Bool := e.id.isNone

/-- The `outcome` is `.sent`: a message has been stored. -/
def hasSent (e : Ended) : Bool :=
  match e.outcome with
  | .ok .sent => true
  | _ => false

/-- The `outcome` is `.received` with no messages. -/
def hasReceivedNothing (e : Ended) : Bool :=
  match e.outcome with
  | .ok (.received slice) => slice.isEmpty
  | _ => false

end Ended

/-- The counters of `m` are those of the calls in `ended`: each is the number, as a `UInt64`, of
the calls that have the property it counts. -/
structure Metrics.Accounts (m : Metrics) (ended : List Ended) : Prop where
  total : m.total = .ofNat ended.length
  timed : m.timed = .ofNat ended.length
  succeeded : m.succeeded = .ofNat (ended.countP (·.outcome.isOk))
  failed : m.failed = .ofNat (ended.countP (!·.outcome.isOk))
  notifications : m.notifications = .ofNat (ended.countP Ended.isNotification)
  messagesSent : m.messagesSent = .ofNat (ended.countP Ended.hasSent)
  emptyReceives : m.emptyReceives = .ofNat (ended.countP Ended.hasReceivedNothing)

namespace Metrics

/-- The counter of `p` goes up by one for another call `e` exactly when `p e`. -/
theorem ofNat_countP_concat (p : Ended → Bool) (ended : List Ended) (e : Ended) :
    UInt64.ofNat ((ended ++ [e]).countP p) =
      UInt64.ofNat (ended.countP p) + if p e then 1 else 0 := by
  rw [List.countP_append, List.countP_singleton, UInt64.ofNat_add]
  split <;> rfl

/-- Everything that `countCall` changes for the call `e`, as one record. -/
theorem countCall_eq (m : Metrics) (e : Ended) (millis : Nat) :
    Relay.countCall m e.id e.outcome millis =
      { total := m.total + 1
        succeeded := m.succeeded + if e.outcome.isOk then 1 else 0
        failed := m.failed + if !e.outcome.isOk then 1 else 0
        notifications := m.notifications + if e.isNotification then 1 else 0
        messagesSent := m.messagesSent + if e.hasSent then 1 else 0
        emptyReceives := m.emptyReceives + if e.hasReceivedNothing then 1 else 0
        millis := m.millis + .ofNat millis
        timed := m.timed + 1 } := by
  obtain ⟨id, outcome⟩ := e
  unfold Relay.countCall Relay.countOutcome Ended.isNotification Ended.hasSent
    Ended.hasReceivedNothing
  -- How a call ended: refused, sent, asked for the sequence number, or told a slice.
  rcases outcome with e | _ | _ | slice
  · cases id <;> simp [Except.isOk, Except.toBool, request, notification]
  · cases id <;> simp [Except.isOk, Except.toBool, request, notification, messageSent]
  · cases id <;> simp [Except.isOk, Except.toBool, request, notification]
  · cases id <;> cases empty : slice.isEmpty <;>
      simp [Except.isOk, Except.toBool, request, notification, emptyReceive, empty]

theorem accounts_zero : zero.Accounts [] := ⟨rfl, rfl, rfl, rfl, rfl, rfl, rfl⟩

variable {m : Metrics} {ended : List Ended}

/-- **A call that ends is counted once**: if `m` accounts for `ended`, `countCall` for `e` accounts
for `ended ++ [e]`. -/
theorem Accounts.count (accounts : m.Accounts ended) (e : Ended) (millis : Nat) :
    (Relay.countCall m e.id e.outcome millis).Accounts (ended ++ [e]) := by
  have length : UInt64.ofNat (ended ++ [e]).length = UInt64.ofNat ended.length + 1 := by
    rw [List.length_append, UInt64.ofNat_add]
    rfl
  rw [countCall_eq]
  constructor
  · rw [length, accounts.total]
  · rw [length, accounts.timed]
  · rw [ofNat_countP_concat, accounts.succeeded]
  · rw [ofNat_countP_concat, accounts.failed]
  · rw [ofNat_countP_concat, accounts.notifications]
  · rw [ofNat_countP_concat, accounts.messagesSent]
  · rw [ofNat_countP_concat, accounts.emptyReceives]

/-- Every call in `ended` fails or succeeds, so `total` is the sum of `succeeded` and `failed`. -/
theorem Accounts.total_eq (accounts : m.Accounts ended) : m.total = m.succeeded + m.failed := by
  rw [accounts.total, accounts.succeeded, accounts.failed, ← UInt64.ofNat_add,
    List.length_eq_countP_add_countP (·.outcome.isOk)]
  simp only [Bool.not_eq_true, Bool.decide_eq_false]

/-- The order of `ended` does not matter. -/
theorem Accounts.perm (accounts : m.Accounts ended) {others : List Ended}
    (perm : others.Perm ended) : m.Accounts others where
  total := perm.length_eq ▸ accounts.total
  timed := perm.length_eq ▸ accounts.timed
  succeeded := perm.countP_eq _ ▸ accounts.succeeded
  failed := perm.countP_eq _ ▸ accounts.failed
  notifications := perm.countP_eq _ ▸ accounts.notifications
  messagesSent := perm.countP_eq _ ▸ accounts.messagesSent
  emptyReceives := perm.countP_eq _ ▸ accounts.emptyReceives

end Metrics

namespace Relay

variable {relay : Relay} {ticket : Ticket}

/-! ### Calls that end -/

/-- The call of an entry that ends when it starts at `key`: either `Call.route` gives an error, or
`invoke` gives an outcome at once. -/
def endsAtOnce? (relay : Relay) (key : Place) : Entry → Option Ended
  | .refused _ => none
  | .call id method params =>
    match Call.route method params with
    | .error e => some ⟨id, .error e⟩
    | .ok call => (invoke relay.timeline relay.config.receiveTimeout key call).2.map fun outcome =>
      ⟨id, .ok outcome⟩

/-- The calls of entries, the first with number `index`, that end when they start one after
another. -/
def endAtOnce (relay : Relay) (ticket : Ticket) : List Entry → Nat → List Ended
  | [], _ => []
  | entry :: entries, index =>
    (relay.endsAtOnce? (ticket, index) entry).toList ++
      (relay.startEntry (ticket, index) entry).1.endAtOnce ticket entries (index + 1)

/-- The `id` of the request that waits at `key`. -/
def idAt (relay : Relay) (key : Place) : Option Json :=
  (relay.inFlight.find? fun f => f.ticket == key.1).bind (·.waitingId key.2)

/-- The call of the reader that the delivery `d` is for: it ends in `.received d.slice`. -/
def endsWith (relay : Relay) (d : Delivery Place) : Ended :=
  ⟨relay.idAt d.key, .ok (.received d.slice)⟩

/-- The calls that end in `submit`: those of `entries` that end at once, and those of the readers
that are woken. -/
def endedIn (relay : Relay) (ticket : Ticket) (isBatch : Bool) (entries : List Entry) :
    List Ended :=
  let taken := relay.taking ticket isBatch entries
  relay.endAtOnce ticket entries 0 ++ taken.timeline.resume.2.map taken.endsWith

/-- The calls that end in an operation. -/
def ended (relay : Relay) : Operation → List Ended
  | .begin ticket request =>
    match relay.submission request with
    | .answered _ => []
    | .single entry => relay.endedIn ticket false [entry]
    | .batch entries => relay.endedIn ticket true entries
  | .abort _ => []
  | .pass millis => (relay.timeline.pass millis).2.map relay.endsWith

/-- Either `begin` answers `request` without starting anything, or it submits the entries of
`request`. -/
theorem begin_cases (relay : Relay) (ticket : Ticket) (request : HttpRequest) :
    ((relay.begin ticket request).1 = relay ∧ relay.ended (.begin ticket request) = [] ∧
        (relay.submission request).entries = []) ∨
      ∃ isBatch entries, (relay.submission request).entries = entries ∧
        (relay.begin ticket request).1 = (relay.submit ticket isBatch entries).1 ∧
          relay.ended (.begin ticket request) = relay.endedIn ticket isBatch entries := by
  -- A request that brings no entries is answered at once, and ends no call.
  cases asks : relay.submission request with
  | answered response =>
    left
    simp only [Relay.begin, ended, asks]
    exact ⟨trivial, trivial, rfl⟩
  | single entry =>
    refine .inr ⟨false, [entry], rfl, ?_⟩
    simp only [Relay.begin, ended, asks]
    exact ⟨trivial, trivial⟩
  | batch entries =>
    refine .inr ⟨true, entries, rfl, ?_⟩
    simp only [Relay.begin, ended, asks]
    exact ⟨trivial, trivial⟩

/-- The calls that end in the course of operations, in order. -/
def endedAll (relay : Relay) : List Operation → List Ended
  | [] => []
  | operation :: operations =>
    relay.ended operation ++ (relay.operate operation).1.endedAll operations

/-! ### Who waits for what -/

/-- A request with `id` waits at `key`. -/
def WaitsFor (relay : Relay) (key : Place) (id : Option Json) : Prop :=
  ∃ f ∈ relay.inFlight, f.ticket = key.1 ∧ f.entries[key.2]? = some (.waiting id)

section Waiting

variable {later : Relay} {key : Place} {id : Option Json}

theorem idAt_of_waitsFor (apart : (relay.inFlight.map InFlight.ticket).Nodup)
    (waits : relay.WaitsFor key id) : relay.idAt key = id := by
  obtain ⟨f, inside, named, found⟩ := waits
  have only : relay.inFlight.find? (fun g => g.ticket == key.1) = some f := by
    rw [← List.head?_filter, ← named, filter_ticket apart inside]
    rfl
  rw [idAt, only, Option.bind_some, InFlight.waitingId, found]

/-- If every request that waits in `later` waited in `relay` at the same place, the `id` at `key`
is the same in both. -/
theorem idAt_eq (apart : (relay.inFlight.map InFlight.ticket).Nodup)
    (apart' : (later.inFlight.map InFlight.ticket).Nodup) (waits : later.WaitsAt key)
    (old : ∀ id, later.WaitsFor key id → relay.WaitsFor key id) :
    later.idAt key = relay.idAt key := by
  obtain ⟨f, inside, named, id, found⟩ := waits
  have waits : later.WaitsFor key id := ⟨f, inside, named, found⟩
  rw [idAt_of_waitsFor apart' waits, idAt_of_waitsFor apart (old id waits)]

/-- A request that waits after `settle d` waited before it. -/
theorem WaitsFor.of_settle {d : Delivery Place} (waits : (relay.settle d).WaitsFor key id) :
    relay.WaitsFor key id := by
  unfold settle at waits
  split at waits
  · exact waits
  · obtain ⟨g, changed, named, found⟩ := waits
    obtain ⟨f, inside, rfl⟩ := List.mem_map.1 changed
    split at named
    · refine ⟨f, inside, named, ?_⟩
      rw [if_pos ‹_›, InFlight.settle] at found
      by_cases same : d.key.2 = key.2
      · -- What is done does not wait.
        rw [List.getElem?_set, if_pos same] at found
        split at found <;> cases found
      · rwa [List.getElem?_set_ne same] at found
    · rw [if_neg ‹_›] at found
      exact ⟨f, inside, named, found⟩

theorem WaitsFor.of_retire
    (waits : ({ relay with inFlight := relay.inFlight.filter fun f => f.response?.isNone } :
      Relay).WaitsFor key id) : relay.WaitsFor key id := by
  obtain ⟨f, inside, rest⟩ := waits
  exact ⟨f, (List.mem_filter.1 inside).1, rest⟩

theorem WaitsFor.of_settleAll {deliveries : List (Delivery Place)}
    (waits : (relay.settleAll deliveries).1.WaitsFor key id) : relay.WaitsFor key id := by
  induction deliveries generalizing relay with
  | nil => exact waits
  | cons d deliveries ih => exact (ih waits).of_retire.of_settle

end Waiting

/-! ### Counting -/

section Counting

variable {ended : List Ended} {keys : List Place}

theorem accounts_startEntry (accounts : relay.metrics.Accounts ended) (key : Place)
    (entry : Entry) :
    (relay.startEntry key entry).1.metrics.Accounts
      (ended ++ (relay.endsAtOnce? key entry).toList) := by
  cases entry with
  | refused answer =>
    rw [endsAtOnce?, Option.toList_none, List.append_nil]
    exact accounts
  | call id method params =>
    cases routed : Call.route method params with
    | error e =>
      simp only [startEntry, endsAtOnce?, routed]
      exact accounts.count ⟨id, .error e⟩ 0
    | ok call =>
      simp only [startEntry, endsAtOnce?, routed]
      -- Only a receive that waits ends later. Everything else is counted now.
      cases (invoke relay.timeline relay.config.receiveTimeout key call).2 with
      | none =>
        rw [Option.map_none, Option.toList_none, List.append_nil]
        exact accounts
      | some outcome => exact accounts.count ⟨id, .ok outcome⟩ 0

theorem accounts_startEntries (accounts : relay.metrics.Accounts ended) (ticket : Ticket)
    (entries : List Entry) (first : Nat) :
    (relay.startEntries ticket entries first).1.metrics.Accounts
      (ended ++ relay.endAtOnce ticket entries first) := by
  induction entries generalizing relay ended first with
  | nil =>
    rw [endAtOnce, List.append_nil]
    exact accounts
  | cons entry entries ih =>
    rw [endAtOnce, ← List.append_assoc]
    exact ih (accounts_startEntry accounts (ticket, first) entry) (first + 1)

/-- Settling the delivery `d` counts the call of its reader, `relay.endsWith d`. -/
theorem accounts_settle (attends : relay.Attends keys) (accounts : relay.metrics.Accounts ended)
    {d : Delivery Place} (here : d.key ∈ keys) :
    (relay.settle d).metrics.Accounts (ended ++ [relay.endsWith d]) := by
  obtain ⟨f, inside, named, -⟩ := (attends.waits d.key).1 here
  cases found : relay.inFlight.find? fun g => g.ticket == d.key.1 with
  | none =>
    -- A reader that leaves belongs to a submission that is there.
    simpa [named] using List.find?_eq_none.1 found f inside
  | some g =>
    have counted := accounts.count (relay.endsWith d) (d.time - g.began)
    simp only [settle, found]
    simpa only [endsWith, idAt, found, Option.bind_some] using counted

theorem accounts_settleAll {deliveries : List (Delivery Place)}
    (attends : relay.Attends (deliveries.map (·.key) ++ keys))
    (accounts : relay.metrics.Accounts ended) :
    (relay.settleAll deliveries).1.metrics.Accounts (ended ++ deliveries.map relay.endsWith) := by
  induction deliveries generalizing relay ended with
  | nil =>
    rw [List.map_nil, List.append_nil]
    exact accounts
  | cons d deliveries ih =>
    have next := attends.settle.retire
    have counted := ih next (accounts_settle attends accounts List.mem_cons_self)
    rw [List.append_assoc, List.singleton_append] at counted
    -- The others still wait, with the ids that they had before.
    have same : deliveries.map (relay.endsWith) = deliveries.map ({ relay.settle d with
        inFlight := (relay.settle d).inFlight.filter fun f => f.response?.isNone } :
          Relay).endsWith := by
      apply List.map_congr_left
      intro e member
      have waits := (next.waits e.key).1 (List.mem_append_left _ (List.mem_map_of_mem member))
      rw [endsWith, endsWith, ← idAt_eq attends.apart next.apart waits
        fun id waits => waits.of_retire.of_settle]
    rw [List.map_cons, same]
    exact counted

theorem accounts_submit (steady : relay.Steady) (fresh : ∀ f ∈ relay.inFlight, f.ticket ≠ ticket)
    (accounts : relay.metrics.Accounts ended) (isBatch : Bool) (entries : List Entry) :
    (relay.submit ticket isBatch entries).1.metrics.Accounts
      (ended ++ relay.endedIn ticket isBatch entries) := by
  have taken := steady.attends_taking fresh isBatch entries
  let taking := relay.taking ticket isBatch entries
  let kept : Relay := { taking with inFlight := taking.inFlight.filter fun f => f.response?.isNone }
  have attends : ({ kept with timeline := taking.timeline.resume.1 } : Relay).Attends
      ((goOnOrder ticket entries.length taking.timeline.resume.2).map (·.key) ++
        taking.timeline.resume.1.readers.map (·.key)) :=
    (taken.retire.perm (taking.map_key_resume ticket entries.length)).congr _ rfl
  have counted := accounts_settleAll attends (accounts_startEntries accounts ticket entries 0)
  rw [submit_eq steady.unanswered]
  refine counted.perm ?_
  rw [endedIn, ← List.append_assoc]
  refine List.Perm.append_left _ ?_
  -- Whoever is woken still waits when all that has been answered at once is gone.
  have same : taking.timeline.resume.2.map taking.endsWith =
      taking.timeline.resume.2.map ({ kept with timeline := taking.timeline.resume.1 } :
        Relay).endsWith := by
    apply List.map_congr_left
    intro d told
    have member := (goOnOrder_perm ticket entries.length taking.timeline.resume.2).mem_iff.2 told
    have waits := (attends.waits d.key).1 (List.mem_append_left _ (List.mem_map_of_mem member))
    rw [endsWith, endsWith, ← idAt_eq taken.apart attends.apart waits
      fun id waits => WaitsFor.of_retire waits]
  rw [same]
  exact ((goOnOrder_perm _ _ _).map _).symm

theorem accounts_operate (steady : relay.Steady) {operation : Operation}
    (fresh : ∀ ticket request, operation = .begin ticket request →
      ∀ f ∈ relay.inFlight, f.ticket ≠ ticket)
    (accounts : relay.metrics.Accounts ended) :
    (relay.operate operation).1.metrics.Accounts (ended ++ relay.ended operation) := by
  cases operation with
  | begin ticket request =>
    show (relay.begin ticket request).1.metrics.Accounts _
    rcases relay.begin_cases ticket request with
      ⟨same, none, -⟩ | ⟨isBatch, entries, -, same, all⟩
    · rw [same, none, List.append_nil]
      exact accounts
    · rw [same, all]
      exact accounts_submit steady (fresh _ _ rfl) accounts isBatch entries
  | abort ticket =>
    rw [Relay.ended, List.append_nil]
    exact accounts
  | pass millis =>
    -- The readers go on in another order than they were told in, which makes no sum different.
    have attends := (steady.attends.perm (relay.map_key_pass millis)).congr
      { relay with timeline := (relay.timeline.pass millis).1 } rfl
    refine (accounts_settleAll attends accounts).perm (List.Perm.append_left _ ?_)
    exact (((gather_perm _).trans (List.mergeSort_perm _ _)).map _).symm

/-- **The counters are those of the calls that have ended**: if the metrics account for `ended`,
then after `operations` they account for `ended ++ relay.endedAll operations`. -/
theorem accounts_operateAll (steady : relay.Steady) {operations : List Operation}
    (admits : relay.Admits operations) (accounts : relay.metrics.Accounts ended) :
    (relay.operateAll operations).1.metrics.Accounts (ended ++ relay.endedAll operations) := by
  induction operations generalizing relay ended with
  | nil =>
    rw [endedAll, List.append_nil]
    exact accounts
  | cons operation operations ih =>
    rw [endedAll, ← List.append_assoc]
    exact ih (steady.operate admits.1) admits.2 (accounts_operate steady admits.1 accounts)

end Counting

end Relay

end StateChannel
