import StateChannel.Proofs.Relay.Steady

/-!
# What a reader is told

A reader keeps its channel and its position for as long as it waits. So a request for the messages
past a position is answered with what lies past it at the end of one of the operations that follow,
whatever these are.

## Main definitions

* `Timeline.ReadsFrom`: the readers of a submission read one channel, from one position
* `Relay.pollAnswer`: what a request for messages is answered with

## Main results

* `Relay.readsFrom_operateAll`: readers keep to their channel and position
* `Relay.slice_of_delivery`: a reader is told what its log holds when the operation is over
* `Relay.Steady.submit_poll`: a poll that is taken on keeps to its channel and position
* `Relay.Steady.responses_poll`: a poll has one response, with the messages of some moment
-/

namespace StateChannel

/-! ### Channels stay where they are -/

namespace Relay

variable {relay : Relay} {name : String} {place : LogId}

theorem find?_invoke {t : Timeline Place} (found : t.registry.find? name = some place)
    (timeout : Duration) (key : Place) (call : Call) :
    (invoke t timeout key call).1.registry.find? name = some place := by
  have entered (channel : String) : (t.registry.enter channel).1.find? name = some place :=
    Registry.find?_enter_of_find? found channel
  cases call with
  | send channel message => exact (Registry.find?_update _ _ _ _).trans (entered channel)
  | getSeq channel => exact entered channel
  | receive channel start =>
    rcases t.receive_cases key channel start.toNat timeout.wait with ⟨d, told⟩ | ⟨w, -, waited⟩
    · simp only [invoke, told]
      exact entered channel
    · simp only [invoke, waited]
      exact entered channel

theorem find?_startEntry (found : relay.timeline.registry.find? name = some place) (key : Place)
    (entry : Entry) :
    (relay.startEntry key entry).1.timeline.registry.find? name = some place := by
  cases entry with
  | refused answer => exact found
  | call id method params =>
    cases routed : Call.route method params with
    | error e =>
      simp only [startEntry, routed]
      exact found
    | ok call =>
      simp only [startEntry, routed]
      split <;> exact find?_invoke found _ key call

theorem find?_startEntries (found : relay.timeline.registry.find? name = some place)
    (ticket : Ticket) (entries : List Entry) (first : Nat) :
    (relay.startEntries ticket entries first).1.timeline.registry.find? name = some place := by
  induction entries generalizing relay first with
  | nil => exact found
  | cons entry entries ih => exact ih (find?_startEntry found _ entry) (first + 1)

end Relay

/-! ### Readers keep their position -/

/-- The readers of `ticket` wait on `channel`, each for what lies past `start`. -/
def Timeline.ReadsFrom (t : Timeline Place) (ticket : Ticket) (channel : String) (start : Nat) :
    Prop :=
  ∀ w ∈ t.readers, w.key.1 = ticket →
    w.reader.start = start ∧ t.registry.find? channel = some w.id

namespace Timeline

variable {t later : Timeline Place} {ticket : Ticket} {channel : String} {start : Nat}

/-- If `later` has no new readers of `ticket` and keeps the place of `channel`, it `ReadsFrom` as
`t` does. -/
theorem ReadsFrom.mono (reads : t.ReadsFrom ticket channel start)
    (old : ∀ w ∈ later.readers, w.key.1 = ticket → w ∈ t.readers)
    (kept : ∀ id, t.registry.find? channel = some id → later.registry.find? channel = some id) :
    later.ReadsFrom ticket channel start := by
  intro w member named
  obtain ⟨position, found⟩ := reads w (old w member named) named
  exact ⟨position, kept _ found⟩

/-- A reader of `ticket` is delivered what lies past `start` in the log of `channel`. -/
theorem ReadsFrom.slice_deliver (reads : t.ReadsFrom ticket channel start) {w : Wait Place}
    (member : w ∈ t.readers) (named : w.key.1 = ticket) (time : Nat) :
    (t.deliver time w).slice = (t.registry.logOf channel).slice start := by
  obtain ⟨position, found⟩ := reads w member named
  rw [deliver, Reader.read, position, Registry.logOf_of_find? found]

end Timeline

namespace Relay

variable {relay : Relay} {ticket : Ticket} {channel : String} {start : Nat} {operation : Operation}

/-- Starting `entries` under another ticket `first` keeps `ReadsFrom`. -/
theorem readsFrom_startEntries (reads : relay.timeline.ReadsFrom ticket channel start)
    {first : Ticket} (apart : first ≠ ticket) (entries : List Entry) :
    (relay.startEntries first entries 0).1.timeline.ReadsFrom ticket channel start := by
  refine reads.mono (fun w member named => ?_) fun id found =>
    find?_startEntries found first entries 0
  rcases mem_readers_startEntries member with old | ⟨i, call, own, -⟩
  · exact old
  · rw [own] at named
    exact absurd named apart

theorem readsFrom_submit (steady : relay.Steady)
    (reads : relay.timeline.ReadsFrom ticket channel start) {first : Ticket}
    (apart : first ≠ ticket) (isBatch : Bool) (entries : List Entry) :
    (relay.submit first isBatch entries).1.timeline.ReadsFrom ticket channel start := by
  rw [timeline_submit steady]
  exact (readsFrom_startEntries reads apart entries).mono
    (fun w member _ => List.mem_append_right _ member) fun id found => found

/-- An `operation` that does not use `ticket` keeps `ReadsFrom`. -/
theorem readsFrom_operate (steady : relay.Steady)
    (reads : relay.timeline.ReadsFrom ticket channel start)
    (other : operation.ticket? ≠ some ticket) :
    (relay.operate operation).1.timeline.ReadsFrom ticket channel start := by
  -- The readers of `ticket` stay where they are, or leave, and no name gets another log.
  cases operation with
  | begin first request =>
    have apart : first ≠ ticket := fun same => other (congrArg some same)
    show (relay.begin first request).1.timeline.ReadsFrom ticket channel start
    unfold Relay.begin
    dsimp only
    split
    · exact reads
    · exact readsFrom_submit steady reads apart _ _
    · exact readsFrom_submit steady reads apart _ _
  | abort first =>
    refine reads.mono (fun w member _ => ?_) fun id found => found
    rcases List.mem_append.1 member with woken | waiting
    · exact List.mem_append_left _ (List.mem_filter.1 woken).1
    · exact List.mem_append_right _ (List.mem_filter.1 waiting).1
  | pass millis =>
    show (relay.pass millis).1.timeline.ReadsFrom ticket channel start
    rw [timeline_pass]
    refine reads.mono (fun w member _ => ?_) fun id found => found
    rcases List.mem_append.1 member with woken | waiting
    · exact List.mem_append_left _ woken
    · exact List.mem_append_right _ (List.mem_filter.1 waiting).1

theorem readsFrom_operateAll (steady : relay.Steady)
    (reads : relay.timeline.ReadsFrom ticket channel start) {operations : List Operation}
    (admits : relay.Admits operations)
    (others : ∀ operation ∈ operations, operation.ticket? ≠ some ticket) :
    (relay.operateAll operations).1.timeline.ReadsFrom ticket channel start := by
  induction operations generalizing relay with
  | nil => exact reads
  | cons operation operations ih =>
    exact ih (steady.operate admits.1)
      (readsFrom_operate steady reads (others operation List.mem_cons_self)) admits.2
      fun later member => others later (List.mem_cons_of_mem operation member)

/-- A delivery to a reader of `ticket` tells what the log of `channel` holds past `start` after the
`operation`. -/
theorem slice_of_delivery (steady : relay.Steady)
    (reads : relay.timeline.ReadsFrom ticket channel start)
    (other : operation.ticket? ≠ some ticket) {d : Delivery Place}
    (told : d ∈ relay.deliveries operation) (named : d.key.1 = ticket) :
    d.slice = ((relay.operate operation).1.timeline.registry.logOf channel).slice start := by
  -- A reader that an append woke is told after all entries, off the logs as they are then.
  have woken (first : Ticket) (apart : first ≠ ticket) (isBatch : Bool) (entries : List Entry)
      (told : d ∈ (relay.taking first isBatch entries).timeline.resume.2) :
      d.slice =
        ((relay.submit first isBatch entries).1.timeline.registry.logOf channel).slice start := by
    obtain ⟨w, member, rfl⟩ := List.mem_map.1 told
    rw [timeline_submit steady, Timeline.registry_resume]
    exact (readsFrom_startEntries reads apart entries).slice_deliver
      (List.mem_append_left _ member) named _
  cases operation with
  | begin first request =>
    have apart : first ≠ ticket := fun same => other (congrArg some same)
    show d.slice = ((relay.begin first request).1.timeline.registry.logOf channel).slice start
    cases asks : relay.submission request with
    | answered response =>
      rw [deliveries, asks] at told
      cases told
    | single entry =>
      rw [deliveries, asks] at told
      simp only [Relay.begin, asks]
      exact woken first apart false [entry] told
    | batch entries =>
      rw [deliveries, asks] at told
      simp only [Relay.begin, asks]
      exact woken first apart true entries told
  | abort first => cases told
  | pass millis =>
    show d.slice = ((relay.pass millis).1.timeline.registry.logOf channel).slice start
    obtain ⟨w, member, rfl⟩ := List.mem_map.1 told
    rw [timeline_pass, Timeline.registry_pass]
    have waiting : w ∈ relay.timeline.waits := (List.mem_filter.1 (List.mem_mergeSort.1 member)).1
    exact reads.slice_deliver (List.mem_append_right _ waiting) named _

/-! ### One poll -/

section Polls

variable {id : Option Json} {method : String} {params : Option Json} {position : UInt64}

/-- The answer to a poll with `id` when its channel has `log`: what lies past `position`. -/
def pollAnswer (id : Option Json) (log : Log) (position : UInt64) : Option Json :=
  Entry.answer id (.ok (.received (log.slice position.toNat)))

/-- Starting a poll of `channel` from `position` appends to no log and wakes no reader. It is
`.done` with `pollAnswer` at once, or it waits, and then its reader `ReadsFrom`. -/
theorem startEntries_poll (routed : Call.route method params = .ok (.receive channel position))
    (fresh : ∀ w ∈ relay.timeline.readers, w.key.1 ≠ ticket) :
    (relay.startEntries ticket [.call id method params] 0).1.timeline.ReadsFrom ticket channel
        position.toNat ∧
      (relay.startEntries ticket [.call id method params] 0).1.timeline.woken =
        relay.timeline.woken ∧
      (∀ name, (relay.startEntries ticket [.call id method params] 0).1.timeline.registry.logOf
        name = relay.timeline.registry.logOf name) ∧
      ((relay.startEntries ticket [.call id method params] 0).2 = [.waiting id] ∨
        (relay.startEntries ticket [.call id method params] 0).2 =
          [.done (pollAnswer id (relay.timeline.registry.logOf channel) position)]) := by
  -- The poll is told at once if the log has grown past it, and waits otherwise.
  by_cases told : position.toNat < (relay.timeline.registry.logOf channel).seq ∨
      relay.config.receiveTimeout.wait = 0
  · have answered := Timeline.receive_of_told told (ticket, 0)
    simp only [startEntries, startEntry, routed, invoke, answered, Option.map_some]
    exact ⟨fun w member named => absurd named (fresh w member), trivial,
      fun name => Registry.logOf_enter _ _ _, .inr rfl⟩
  · rw [not_or, Nat.not_lt] at told
    have waits := Timeline.receive_of_waits told.1 (Nat.pos_of_ne_zero told.2) (ticket, 0)
    simp only [startEntries, startEntry, routed, invoke, waits, Option.map_none]
    refine ⟨fun w member named => ?_, trivial, fun name => Registry.logOf_enter _ _ _, .inl trivial⟩
    rcases List.mem_append.1 member with woken | waiting
    · exact absurd named (fresh w (List.mem_append_left _ woken))
    · rcases List.mem_append.1 waiting with old | new
      · exact absurd named (fresh w (List.mem_append_right _ old))
      · rw [List.mem_singleton.1 new]
        exact ⟨rfl, Registry.find?_enter _ _⟩

/-- The submission `f` is a single poll with `id` that waits, or that is done with one of
`answers`. -/
def IsPoll (id : Option Json) (answers : Option Json → Prop) (f : InFlight) : Prop :=
  f.isBatch = false ∧
    (f.entries = [.waiting id] ∨ ∃ answer, answers answer ∧ f.entries = [.done answer])

variable {answers : Option Json → Prop}

theorem IsPoll.response {f : InFlight} {response : HttpResponse} (poll : IsPoll id answers f)
    (given : f.response? = some response) :
    ∃ answer, answers answer ∧ response = HttpResponse.ofAnswer answer := by
  obtain ⟨single, waits | ⟨answer, proper, done⟩⟩ := poll
  · rw [InFlight.response?, waits] at given
    cases given
  · refine ⟨answer, proper, ?_⟩
    rw [InFlight.response?, done, single] at given
    cases answer <;> exact (Option.some.inj given).symm

/-- A delivery whose slice is one of `answers` keeps `IsPoll`. -/
theorem keeps_isPoll {d : Delivery Place}
    (proper : d.key.1 = ticket → answers (Entry.answer id (.ok (.received d.slice)))) :
    Tracks.Keeps ticket (IsPoll id answers) d := by
  rintro f other ⟨single, waits | ⟨answer, -, done⟩⟩ named found
  · rw [waits, List.getElem?_singleton] at found
    split at found
    · next first =>
      obtain rfl := Progress.waiting.inj (Option.some.inj found)
      refine ⟨single, .inr ⟨_, proper named, ?_⟩⟩
      rw [InFlight.settle, waits, first]
      rfl
    · cases found
  · rw [done, List.getElem?_singleton] at found
    split at found <;> cases found

/-- A poll that is submitted `ReadsFrom` its `channel` and `position`, and is tracked as `IsPoll`
if `pollAnswer` on the log as it is now is one of `answers`. -/
theorem Steady.submit_poll (steady : relay.Steady)
    (fresh : ∀ f ∈ relay.inFlight, f.ticket ≠ ticket)
    (routed : Call.route method params = .ok (.receive channel position)) {begun : Relay}
    {finished : List Finished}
    (submitted : relay.submit ticket false [.call id method params] = (begun, finished))
    (now : answers (pollAnswer id (begun.timeline.registry.logOf channel) position)) :
    begun.timeline.ReadsFrom ticket channel position.toNat ∧
      begun.Tracks ticket (IsPoll id answers) (responsesTo ticket finished) := by
  have noReader : ∀ w ∈ relay.timeline.readers, w.key.1 ≠ ticket := by
    intro w member named
    obtain ⟨f, inside, same, _⟩ := (steady.attends.waits w.key).1 (List.mem_map_of_mem member)
    exact fresh f inside (same.trans named)
  obtain ⟨reads, woken, logs, progress⟩ := startEntries_poll routed noReader
  have timeline := timeline_submit steady ticket false [.call id method params]
  rw [submitted] at timeline
  have first : answers (pollAnswer id (relay.timeline.registry.logOf channel) position) := by
    rwa [timeline, Timeline.registry_resume, logs channel] at now
  have taken : (relay.taking ticket false [.call id method params]).Tracks ticket
      (IsPoll id answers) [] :=
    .working (List.mem_append_right _ (List.mem_singleton_self _)) rfl
      ⟨rfl, progress.imp_right fun done => ⟨_, first, done⟩⟩
  -- A poll wakes nobody, so nothing is told of it before the operation is over.
  have quiet : (relay.taking ticket false [.call id method params]).timeline.resume.2 = [] := by
    show List.map _ (relay.startEntries ticket [.call id method params] 0).1.timeline.woken = []
    rw [woken, steady.woken]
    rfl
  have tracks := taken.submit steady fresh fun d member => absurd (quiet ▸ member) List.not_mem_nil
  rw [submitted] at tracks
  refine ⟨?_, tracks⟩
  rw [timeline]
  exact reads.mono (fun w member _ => List.mem_append_right _ member) fun _ found => found

/-- **A poll has one response** once `receiveTimeout.wait` has elapsed, whatever operations `later`
do. It is `pollAnswer` on the log of `channel` as it is after the poll and some first part `done`
of `later`. -/
theorem Steady.responses_poll (steady : relay.Steady)
    (fresh : ∀ f ∈ relay.inFlight, f.ticket ≠ ticket)
    (routed : Call.route method params = .ok (.receive channel position)) {begun : Relay}
    {finished : List Finished} {later : List Operation}
    (submitted : relay.submit ticket false [.call id method params] = (begun, finished))
    (admits : begun.Admits later) (others : ∀ operation ∈ later, operation.ticket? ≠ some ticket)
    (long : relay.config.receiveTimeout.wait ≤ elapsed later) :
    ∃ done rest, later = done ++ rest ∧
      responsesTo ticket (finished ++ (begun.operateAll later).2) =
        [HttpResponse.ofAnswer (pollAnswer id
          ((begun.operateAll done).1.timeline.registry.logOf channel) position)] := by
  let answers (answer : Option Json) : Prop := ∃ done rest, later = done ++ rest ∧
    answer = pollAnswer id ((begun.operateAll done).1.timeline.registry.logOf channel) position
  have same : (relay.submit ticket false [.call id method params]).1 = begun :=
    congrArg Prod.fst submitted
  have steadily : begun.Steady := same ▸ steady.submit fresh false _
  have now : answers (pollAnswer id (begun.timeline.registry.logOf channel) position) :=
    ⟨[], later, rfl, rfl⟩
  obtain ⟨reads, first⟩ := steady.submit_poll fresh routed submitted now
  -- Every answer to the poll is read off the log as it is at that operation.
  have keeps (before : List Operation) (operation : Operation) (after : List Operation)
      (split : later = before ++ operation :: after) (d : Delivery Place)
      (member : d ∈ (begun.operateAll before).1.deliveries operation) :
      Tracks.Keeps ticket (IsPoll id answers) d := by
    obtain ⟨admitted, -⟩ := admits_append.1 (split ▸ admits)
    have earlier : ∀ other ∈ before, other.ticket? ≠ some ticket := fun other inside =>
      others other (split ▸ List.mem_append_left _ inside)
    have other := others operation (split ▸ List.mem_append_right _ List.mem_cons_self)
    refine keeps_isPoll fun named => ⟨before ++ [operation], after, by simp [split], ?_⟩
    rw [slice_of_delivery (steadily.operateAll admitted)
      (readsFrom_operateAll steadily reads admitted earlier) other member named, operateAll_append]
    rfl
  have tracks := first.operateAll steadily keeps admits others
  rw [← responsesTo_append] at tracks
  -- The poll does not wait for longer than the waiting time, so it has been answered.
  have bounded := waitsUntil_submit steady fresh false [.call id method params]
  rw [same] at bounded
  obtain ⟨response, single⟩ := tracks.exists_response (steadily.operateAll admits)
    (bounded.operateAll steadily admits others) (by
      rw [now_operateAll steadily admits, ← same, now_submit steady]
      exact Nat.add_le_add_left long _)
  rw [single] at tracks ⊢
  cases tracks with
  | answered gone poll answered =>
    obtain ⟨answer, ⟨done, rest, split, rfl⟩, rfl⟩ := poll.response answered
    exact ⟨done, rest, split, rfl⟩

end Polls

end Relay

end StateChannel
