import StateChannel.Proofs.Relay.Watching

/-!
# Batches

The requests of a batch share one turn: all of them start, in order, before any reader goes on. So
a request sees what those before it have sent, and a reader that finds nothing sees what those after
it send too. A reader that the batch does not wake waits for others, up to one deadline that is the
same for all.

## Main definitions

* `Call.told?`, `Entry.progress`: how far a request comes
* `Batch`, `Batch.progresses`, `Batch.inFlight`: how far the requests of a batch come
* `Relay.told?`: what a reader that waits is told in the course of operations

## Main results

* `Relay.progress_startEntries`: how far requests have come when all of them have started
* `Relay.BatchAt.operateAll`: how far they come in the course of operations
* `Relay.batch_answers`: what a batch sends and is answered, and when
-/

namespace StateChannel

/-! ### How long readers wait -/

/-- A reader waits no longer than the timeout says, in whole milliseconds. -/
theorem Duration.wait_le_millis (d : Duration) : d.wait ≤ d.millis := by
  unfold wait clockSeconds
  split <;> omega

/-- A `config` that passes its check lets readers wait for some time. -/
theorem Config.wait_pos {config : Config} (valid : config.check = .ok ()) :
    0 < config.receiveTimeout.wait := by
  have long : config.receiveTimeout.millis ≠ 0 := by
    intro zero
    simp [Config.check, zero] at valid
  unfold Duration.wait
  split
  · decide
  · exact Nat.pos_of_ne_zero long

/-! ### What the requests of a batch come to -/

/-- The `messages` of its channel that a call is answered from when it starts: none for a
`.receive` past whose position nothing lies, which is told `goesOn` later, if anything. -/
def Call.told? (messages : List Json) (goesOn : Option (List Json)) : Call → Option (List Json)
  | .receive _ start => if start.toNat < messages.length then some messages else goesOn
  | _ => some messages

/-- A call is answered from `messages` whatever `goesOn` is, or it is a `.receive` and answered
from `goesOn`. -/
theorem Call.told?_cases (messages : List Json) (call : Call) :
    (∀ goesOn, call.told? messages goesOn = some messages) ∨
      ∃ channel start, call = .receive channel start ∧
        ∀ goesOn, call.told? messages goesOn = goesOn := by
  cases call with
  | send channel message => exact .inl fun _ => rfl
  | getSeq channel => exact .inl fun _ => rfl
  | receive channel start =>
    by_cases past : start.toNat < messages.length
    · exact .inl fun _ => if_pos past
    · exact .inr ⟨channel, start, rfl, fun _ => if_neg past⟩

/-- An entry made from `told` waits exactly when `told` is `none`. -/
theorem Progress.elim_eq_waiting_iff {α : Type} {told : Option α} {answer : α → Option Json}
    {id id' : Option Json} :
    (told.elim (.waiting id) fun a => Progress.done (answer a)) = .waiting id' ↔
      told = none ∧ id = id' := by
  cases told <;> simp

namespace Entry

/-- How far an entry comes when each channel holds `before` at its start, and a reader of a channel
is told `goesOn` of it later. -/
def progress (before : String → List Json) (goesOn : String → Option (List Json)) : Entry → Progress
  | .refused answer => .done (some answer)
  | .call id method params =>
    match Call.route method params with
    | .error e => .done (answer id (.error e))
    | .ok made =>
      (made.told? (before made.channel) (goesOn made.channel)).elim (.waiting id)
        fun messages => .done (answer id (.ok (made.outcome messages)))

/-- An entry is `.done` with the same answer for every `told`, or it is a `.receive` on `channel`
and answered from `told channel`. -/
theorem progress_cases (before : String → List Json) (entry : Entry) :
    (∃ given, ∀ told, entry.progress before told = .done given) ∨
      ∃ id channel start, entry.call? = some (.receive channel start) ∧
        ∀ told, entry.progress before told = (told channel).elim (.waiting id) fun messages =>
          .done (answer id (.ok (.received (Slice.ofLog messages start.toNat)))) := by
  cases entry with
  | refused answer => exact .inl ⟨some answer, fun _ => rfl⟩
  | call id method params =>
    cases routed : Call.route method params with
    | error e => exact .inl ⟨answer id (.error e), fun _ => by simp only [progress, routed]⟩
    | ok made =>
      -- Only a receive at the end of its log, or past it, depends on what comes later.
      rcases made.told?_cases (before made.channel) with there | ⟨channel, start, rfl, goesOn⟩
      · refine .inl ⟨answer id (.ok (made.outcome (before made.channel))), fun told => ?_⟩
        simp only [progress, routed, there, Option.elim]
      · refine .inr ⟨id, channel, start, by rw [call?, routed]; rfl, fun told => ?_⟩
        simp only [progress, routed, goesOn]
        rfl

end Entry

/-- A batch under `ticket`, with the `log` of each channel before it. -/
structure Batch where
  ticket : Ticket
  /-- The time at which the batch came in. -/
  began : Nat
  log : String → List Json
  entries : List Entry

namespace Batch

/-- How far the entries of `b` come: each starts when those before it have sent their messages, and
the `i`-th is told `goesOn i` later. -/
def progresses (b : Batch) (goesOn : Nat → String → Option (List Json)) : List Progress :=
  b.entries.mapIdx fun i entry =>
    entry.progress (fun name => b.log name ++ Entry.sentTo name (b.entries.take i)) (goesOn i)

/-- What the reader at place `i` on channel `name` is told when it goes on. If an entry after `i`
sends to `name`, that is what `name` holds after the whole batch; otherwise it is what `others` let
it see. -/
def goesOn (b : Batch) (others : String → Option (List Json)) (i : Nat) (name : String) :
    Option (List Json) :=
  if Entry.sentTo name (b.entries.drop (i + 1)) = [] then others name
  else some (b.log name ++ Entry.sentTo name b.entries)

/-- The batch `b` in flight, with what `others` let its readers see. -/
def inFlight (b : Batch) (others : String → Option (List Json)) : InFlight :=
  ⟨b.ticket, b.began, true, b.progresses (b.goesOn others)⟩

variable {b : Batch} {goesOn goesOn' : Nat → String → Option (List Json)}

/-- The entry at place `i` does not wait and does not depend on `goesOn`, or it is a `.receive` on
`channel` and answered from `goesOn i channel`. -/
theorem progresses_cases (b : Batch) (i : Nat) :
    (∀ goesOn id, (b.progresses goesOn)[i]? ≠ some (.waiting id)) ∧
        (∀ goesOn goesOn', (b.progresses goesOn)[i]? = (b.progresses goesOn')[i]?) ∨
      ∃ id channel start, b.entries[i]?.bind Entry.call? = some (.receive channel start) ∧
        ∀ goesOn, (b.progresses goesOn)[i]? =
          some ((goesOn i channel).elim (.waiting id) fun messages =>
            .done (Entry.answer id (.ok (.received (Slice.ofLog messages start.toNat))))) := by
  simp only [progresses, List.getElem?_mapIdx]
  cases b.entries[i]? with
  | none => exact .inl ⟨fun _ _ impossible => (nomatch impossible), fun _ _ => rfl⟩
  | some entry =>
    rcases entry.progress_cases fun name =>
      b.log name ++ Entry.sentTo name (b.entries.take i) with
      ⟨given, same⟩ | ⟨id, channel, start, asks, tells⟩
    · left
      simp [same]
    · exact .inr ⟨id, channel, start, asks, fun goesOn => congrArg some (tells _)⟩

/-- Wherever `goesOn` tells something, `goesOn'` tells the same. -/
def Extends (goesOn goesOn' : Nat → String → Option (List Json)) : Prop :=
  ∀ i name, goesOn i name = none ∨ goesOn' i name = goesOn i name

/-- The batch in flight is `f`, and each of its entries has come as far as with `goesOn` or as far
as with `goesOn'`. -/
def Between (b : Batch) (goesOn goesOn' : Nat → String → Option (List Json)) (f : InFlight) :
    Prop :=
  ∃ entries, f = ⟨b.ticket, b.began, true, entries⟩ ∧ ∀ i : Nat,
    entries[i]? = (b.progresses goesOn)[i]? ∨ entries[i]? = (b.progresses goesOn')[i]?

/-- A delivery `d` to a reader of `b` that `goesOn'` foresees keeps the batch `Between` the two. -/
theorem keeps_between (more : Extends goesOn goesOn') {d : Delivery Place}
    (tells : d.key.1 = b.ticket → ∃ channel start messages,
      b.entries[d.key.2]?.bind Entry.call? = some (.receive channel start) ∧
        d.slice = Slice.ofLog messages start.toNat ∧
          (goesOn d.key.2 channel = none → goesOn' d.key.2 channel = some messages)) :
    Relay.Tracks.Keeps b.ticket (b.Between goesOn goesOn') d := by
  rintro _ id ⟨entries, rfl, either⟩ mine found
  obtain ⟨channel, start, messages, asks, slice, told⟩ := tells mine
  -- Only a receive waits, and what it is told is what `d` delivers.
  rcases b.progresses_cases d.key.2 with ⟨never, -⟩ | ⟨id', channel', start', asks', progress⟩
  · rcases either d.key.2 with same | same
    · exact absurd (same.symm.trans found) (never goesOn id)
    · exact absurd (same.symm.trans found) (never goesOn' id)
  · obtain ⟨rfl, rfl⟩ : channel' = channel ∧ start' = start := by
      simpa using asks'.symm.trans asks
    have waits : goesOn d.key.2 channel' = none ∧ id' = id := by
      rcases either d.key.2 with same | same <;> rw [progress, found] at same <;>
        obtain ⟨nothing, rfl⟩ := Progress.elim_eq_waiting_iff.1 (Option.some.inj same).symm
      · exact ⟨nothing, rfl⟩
      · exact ⟨(more d.key.2 channel').elim id fun kept => kept ▸ nothing, rfl⟩
    obtain ⟨nothing, rfl⟩ := waits
    refine ⟨_, rfl, fun i => ?_⟩
    -- The entry at the place of `d` goes on, and all others stay as they are.
    by_cases here : d.key.2 = i
    · right
      subst here
      rw [progress, told nothing, slice]
      exact List.getElem?_set_self (List.getElem?_eq_some_iff.1 found).1
    · rw [List.getElem?_set_ne here]
      exact either i

/-- If no entry that still waits is told anything new by `goesOn'`, then `f` has come as far as
with `goesOn'`. -/
theorem Between.eq (more : Extends goesOn goesOn') {f : InFlight}
    (between : b.Between goesOn goesOn' f)
    (still : ∀ (i : Nat) id channel start, f.entries[i]? = some (.waiting id) →
      b.entries[i]?.bind Entry.call? = some (.receive channel start) →
        goesOn i channel = none → goesOn' i channel = none) :
    f = ⟨b.ticket, b.began, true, b.progresses goesOn'⟩ := by
  obtain ⟨entries, rfl, either⟩ := between
  congr 1
  apply List.ext_getElem?
  intro i
  -- An entry that has not gone on is told nothing by `goesOn'` either.
  rcases either i with old | new
  · rcases b.progresses_cases i with ⟨-, same⟩ | ⟨id, channel, start, asks, progress⟩
    · exact old.trans (same goesOn goesOn')
    · rw [old, progress, progress]
      rcases more i channel with nothing | kept
      · rw [progress, nothing] at old
        rw [nothing, still i id channel start old asks nothing]
      · rw [kept]
  · exact new

/-- If `goesOn'` tells nothing new to the readers of `b` that still wait, the relay tracks `b` with
`goesOn'`. -/
theorem tracks_of_between {relay : Relay} {keys : List Place} {given : List HttpResponse}
    (attends : relay.Attends keys) (more : Extends goesOn goesOn')
    (tracks : relay.Tracks b.ticket (b.Between goesOn goesOn') given)
    (still : ∀ key ∈ keys, key.1 = b.ticket → ∀ channel start,
      b.entries[key.2]?.bind Entry.call? = some (.receive channel start) →
        goesOn key.2 channel = none → goesOn' key.2 channel = none) :
    relay.Tracks b.ticket (· = ⟨b.ticket, b.began, true, b.progresses goesOn'⟩) given := by
  cases tracks with
  | @working f inside named between =>
    refine .working inside named (between.eq more fun i id channel start waits => ?_)
    exact still (b.ticket, i) ((attends.waits _).2 ⟨f, inside, named, id, waits⟩) rfl channel start
  | @answered f response gone between answer =>
    refine .answered gone (between.eq more fun i id channel start waits => ?_) answer
    rw [InFlight.response?_eq_none_iff.2 ⟨i, id, waits⟩] at answer
    cases answer

end Batch

namespace Relay

variable {relay : Relay} {ticket : Ticket} {b : Batch}

/-! ### Starting -/

/-- The messages in the log of channel `name`. -/
def messages (relay : Relay) (name : String) : List Json :=
  (relay.timeline.registry.logOf name).toList

/-- What `invoke` gives at once is what the log of the channel tells by `Call.told?`, or
nothing. -/
theorem invoke_snd (t : Timeline Place) {timeout : Duration} (long : 0 < timeout.wait) (key : Place)
    (call : Call) : (invoke t timeout key call).2 =
      (call.told? (t.registry.logOf call.channel).toList none).map call.outcome := by
  cases call with
  | send channel message => rfl
  | getSeq channel =>
    show some (Outcome.seq
      ⟨((t.registry.enter channel).1.log (t.registry.enter channel).2).seq⟩) = _
    rw [Registry.log_enter, ← Log.length_toList]
    rfl
  | receive channel start =>
    by_cases past : start.toNat < (t.registry.logOf channel).seq
    · simp [invoke, Timeline.receive_of_told (.inl past), Call.told?, Call.channel, past]
      rfl
    · simp [invoke, Timeline.receive_of_waits (Nat.not_lt.1 past) long, Call.told?, Call.channel,
        past]

theorem progress_startEntry (long : 0 < relay.config.receiveTimeout.wait) (key : Place)
    (entry : Entry) :
    (relay.startEntry key entry).2 = entry.progress relay.messages fun _ => none := by
  cases entry with
  | refused answer => rfl
  | call id method params =>
    cases routed : Call.route method params with
    | error e => simp only [startEntry, Entry.progress, routed]
    | ok made =>
      simp only [startEntry, Entry.progress, routed, invoke_snd relay.timeline long, messages]
      cases made.told? (relay.timeline.registry.logOf made.channel).toList none <;> rfl

/-- Starting all `entries` brings each as far as `Batch.progresses` says when no reader has been
told anything. -/
theorem progress_startEntries (long : 0 < relay.config.receiveTimeout.wait) (ticket : Ticket)
    (entries : List Entry) (first began : Nat) :
    (relay.startEntries ticket entries first).2 =
      (⟨ticket, began, relay.messages, entries⟩ : Batch).progresses fun _ _ => none := by
  induction entries generalizing relay first with
  | nil => rfl
  | cons entry entries ih =>
    have rest := @ih (relay.startEntry (ticket, first) entry).1
      (by rwa [config_startEntry]) (first + 1)
    have sent : (relay.startEntry (ticket, first) entry).1.messages =
        fun name => relay.messages name ++ Entry.sentTo name [entry] :=
      funext fun name => toList_logOf_startEntry relay _ entry name
    refine (congrArg ((relay.startEntry (ticket, first) entry).2 :: ·) rest).trans ?_
    rw [progress_startEntry long, Batch.progresses, Batch.progresses, List.mapIdx_cons, sent]
    simp only [List.append_assoc, ← Entry.sentTo_append, List.singleton_append, List.take_succ_cons]
    simp [Entry.sentTo]

/-! ### Among other operations -/

/-- What a reader of channel `name` is told between `relay` and `next`: all messages of `next`, if
something was appended or the `deadline` has come. -/
def sees? (relay next : Relay) (deadline : Nat) (name : String) : Option (List Json) :=
  if relay.Stirred next deadline name then some (next.messages name) else none

/-- What a reader of channel `name` is told in the course of operations: the messages after the
first of them by which something was appended or the `deadline` has come. -/
def told? (relay : Relay) (deadline : Nat) (name : String) : List Operation → Option (List Json)
  | [] => none
  | operation :: operations =>
    let next := (relay.operate operation).1
    (relay.sees? next deadline name).or (next.told? deadline name operations)

/-- The relay `tracks` the batch `b` as it is with `others`, and the readers of `b` that wait are
those to whose channel no later entry of `b` sends. -/
structure BatchAt (relay : Relay) (b : Batch) (deadline : Nat)
    (others : String → Option (List Json)) (given : List HttpResponse) : Prop where
  tracks : relay.Tracks b.ticket (· = b.inFlight others) given
  reads : ∀ w ∈ relay.timeline.waits, w.key.1 = b.ticket → ∃ channel start,
    b.entries[w.key.2]?.bind Entry.call? = some (.receive channel start) ∧
      relay.timeline.Serves deadline w channel start ∧
        Entry.sentTo channel (b.entries.drop (w.key.2 + 1)) = []

/-- No reader waits under a `ticket` that is not in use. -/
theorem Steady.key_ne (steady : relay.Steady) (fresh : ∀ f ∈ relay.inFlight, f.ticket ≠ ticket)
    {w : Wait Place} (waits : w ∈ relay.timeline.waits) : w.key.1 ≠ ticket := by
  intro named
  obtain ⟨f, inside, same, -⟩ := (steady.attends.waits w.key).1
    (List.mem_map_of_mem (List.mem_append_right _ waits))
  exact fresh f inside (same.trans named)

section Starts

variable {entries : List Entry}

/-- A reader that `Finds` describes and that waits under `ticket` serves the `.receive` of its
entry, and `P` holds of what later entries send to its channel. -/
theorem Steady.serves_of_finds (steady : relay.Steady)
    (fresh : ∀ f ∈ relay.inFlight, f.ticket ≠ ticket) {later : Timeline Place} {deadline : Nat}
    {w : Wait Place} {P : List Json → Prop}
    (finds : relay.timeline.Finds later deadline ticket 0 entries w P) (mine : w.key.1 = ticket) :
    ∃ channel start, entries[w.key.2]?.bind Entry.call? = some (.receive channel start) ∧
      later.Serves deadline w channel start ∧
        P (Entry.sentTo channel (entries.drop (w.key.2 + 1))) := by
  rcases finds with ⟨old, -⟩ | ⟨i, channel, start, key, asks, serves, sent⟩
  · exact absurd mine (steady.key_ne fresh old)
  · obtain rfl : w.key.2 = i := by rw [key, Nat.zero_add]
    exact ⟨channel, start, asks, serves, sent⟩

/-- After all `entries` have started and before any reader has gone on, the batch is `Between` the
state in which no reader has been told anything and `goesOn`. -/
theorem tracks_taking (long : 0 < relay.config.receiveTimeout.wait) (ticket : Ticket)
    (entries : List Entry) (goesOn : Nat → String → Option (List Json)) :
    (relay.taking ticket true entries).Tracks ticket
      ((⟨ticket, relay.timeline.now, relay.messages, entries⟩ : Batch).Between (fun _ _ => none)
        goesOn) [] := by
  refine .working (List.mem_append_right _ (List.mem_singleton_self _)) rfl
    ⟨(relay.startEntries ticket entries 0).2, ?_, fun i => .inl ?_⟩
  · rw [begun, (relay.starts_startEntries ticket entries 0).now]
  · rw [progress_startEntries long ticket entries 0 relay.timeline.now]

/-- **When a batch has been submitted** it is where `BatchAt` says with nothing told by others: the
readers have gone on to whose channels later entries send. -/
theorem Steady.batchAt_submit (steady : relay.Steady)
    (fresh : ∀ f ∈ relay.inFlight, f.ticket ≠ ticket)
    (long : 0 < relay.config.receiveTimeout.wait) (entries : List Entry) :
    (relay.submit ticket true entries).1.BatchAt
      ⟨ticket, relay.timeline.now, relay.messages, entries⟩
      (relay.timeline.now + relay.config.receiveTimeout.wait) (fun _ => none)
      (responsesTo ticket (relay.submit ticket true entries).2) := by
  let b : Batch := ⟨ticket, relay.timeline.now, relay.messages, entries⟩
  have steadily := steady.submit fresh true entries
  have more : Batch.Extends (fun _ _ => none) (b.goesOn fun _ => none) := fun _ _ => .inl rfl
  -- What waits now found nothing, and nothing was sent to it after it started.
  have reads : ∀ w ∈ (relay.submit ticket true entries).1.timeline.waits, w.key.1 = ticket →
      ∃ channel start, entries[w.key.2]?.bind Entry.call? = some (.receive channel start) ∧
        (relay.submit ticket true entries).1.timeline.Serves
          (relay.timeline.now + relay.config.receiveTimeout.wait) w channel start ∧
            Entry.sentTo channel (entries.drop (w.key.2 + 1)) = [] := by
    rw [timeline_submit steady]
    intro w waits mine
    obtain ⟨channel, start, asks, serves, sent⟩ :=
      steady.serves_of_finds fresh (mem_waits_startEntries waits) mine
    exact ⟨channel, start, asks, ⟨serves.position, serves.named, serves.due⟩, sent⟩
  -- Readers go on only now, so what they are told holds the messages of the whole batch.
  have keeps : ∀ d ∈ (relay.taking ticket true entries).timeline.resume.2,
      Tracks.Keeps ticket (b.Between (fun _ _ => none) (b.goesOn fun _ => none)) d := by
    intro d told
    refine Batch.keeps_between more fun mine => ?_
    obtain ⟨w, woken, rfl⟩ := List.mem_map.1 told
    rcases mem_woken_startEntries woken with earlier | finds
    · rw [steady.woken] at earlier
      cases earlier
    · obtain ⟨channel, start, asks, serves, sent⟩ := steady.serves_of_finds fresh finds mine
      refine ⟨channel, start, _, asks, ?_, fun _ => if_neg sent⟩
      refine (Timeline.slice_deliver serves.named _).trans ?_
      rw [Log.slice, toList_logOf_startEntries, serves.position]
      rfl
  refine ⟨Batch.tracks_of_between steadily.attends more
    ((tracks_taking long ticket entries _).submit steady fresh keeps) ?_, reads⟩
  -- The readers that wait are those that nothing of the batch has woken.
  intro key here mine channel start asks _
  rw [steadily.readers_eq] at here
  obtain ⟨w, waits, rfl⟩ := List.mem_map.1 here
  obtain ⟨channel', start', asks', -, sent⟩ := reads w waits mine
  obtain ⟨rfl, -⟩ : channel' = channel ∧ start' = start := by simpa using asks'.symm.trans asks
  exact if_pos sent

end Starts

section Operations

variable {operation : Operation} {deadline : Nat} {others : String → Option (List Json)}
  {given : List HttpResponse}

/-- **What an operation of others lets the readers of a batch see**: `others` grows by `sees?`, and
`given` by the responses to the batch. -/
theorem BatchAt.operate (working : relay.BatchAt b deadline others given) (steady : relay.Steady)
    (fresh : ∀ ticket request, operation = .begin ticket request →
      ∀ f ∈ relay.inFlight, f.ticket ≠ ticket)
    (other : operation.ticket? ≠ some b.ticket) :
    (relay.operate operation).1.BatchAt b deadline
      (fun name => (others name).or (relay.sees? (relay.operate operation).1 deadline name))
      (given ++ responsesTo b.ticket (relay.operate operation).2) := by
  have steadily := steady.operate fresh
  let next := (relay.operate operation).1
  let after (name : String) := (others name).or (relay.sees? next deadline name)
  have more : Batch.Extends (b.goesOn others) (b.goesOn after) := by
    intro i name
    unfold Batch.goesOn
    split
    · exact (Option.eq_none_or_eq_some (others name)).imp_right fun ⟨seen, same⟩ => by
        simp only [after, same, Option.some_or]
    · exact .inr rfl
  -- Who waits afterwards has waited before, and the operation has not stirred its channel.
  have quiet {w : Wait Place} (waits : w ∈ next.timeline.waits) (mine : w.key.1 = b.ticket) :
      ∃ channel start, b.entries[w.key.2]?.bind Entry.call? = some (.receive channel start) ∧
        next.timeline.Serves deadline w channel start ∧
          Entry.sentTo channel (b.entries.drop (w.key.2 + 1)) = [] ∧
            relay.sees? next deadline channel = none := by
    obtain ⟨old, still⟩ := quiet_of_waits steady other steadily.ahead waits mine
    obtain ⟨channel, start, asks, serves, sent⟩ := working.reads w old mine
    refine ⟨channel, start, asks, ⟨serves.position, ?_, serves.due⟩, sent, if_neg ?_⟩
    · exact find?_operate steady operation serves.named
    · exact serves.due ▸ still channel serves.named
  -- Who goes on is told what its channel holds after the operation.
  have keeps : ∀ d ∈ relay.deliveries operation,
      Tracks.Keeps b.ticket (b.Between (b.goesOn others) (b.goesOn after)) d := by
    intro d told
    refine Batch.keeps_between more fun mine => ?_
    obtain ⟨w, waits, key, -, -, tells⟩ := told_of_delivery steady other told mine
    obtain ⟨channel, start, asks, serves, sent⟩ := working.reads w waits (key ▸ mine)
    obtain ⟨slice, stirred⟩ := tells channel serves.named
    rw [key] at asks sent
    refine ⟨channel, start, next.messages channel, asks, serves.position ▸ slice, fun nothing => ?_⟩
    have unseen : others channel = none := (if_pos sent).symm.trans nothing
    exact (if_pos sent).trans
      (Option.or_eq_some_iff.2 (.inr ⟨unseen, if_pos (serves.due ▸ stirred)⟩))
  refine ⟨Batch.tracks_of_between steadily.attends more
    ((working.tracks.mono fun f same => ⟨_, same, fun i => .inl rfl⟩).operate steady keeps fresh
      other) ?_, fun w waits mine => ?_⟩
  · intro key here mine channel start asks nothing
    rw [steadily.readers_eq] at here
    obtain ⟨w, waits, rfl⟩ := List.mem_map.1 here
    obtain ⟨channel', start', asks', -, sent, unseen⟩ := quiet waits mine
    obtain ⟨rfl, -⟩ : channel' = channel ∧ start' = start := by simpa using asks'.symm.trans asks
    exact (if_pos sent).trans
      (Option.or_eq_none_iff.2 ⟨(if_pos sent).symm.trans nothing, unseen⟩)
  · obtain ⟨channel, start, asks, serves, sent, -⟩ := quiet waits mine
    exact ⟨channel, start, asks, serves, sent⟩

theorem BatchAt.operateAll (working : relay.BatchAt b deadline others given) (steady : relay.Steady)
    {operations : List Operation} (admits : relay.Admits operations)
    (apart : ∀ operation ∈ operations, operation.ticket? ≠ some b.ticket) :
    (relay.operateAll operations).1.BatchAt b deadline
      (fun name => (others name).or (relay.told? deadline name operations))
      (given ++ responsesTo b.ticket (relay.operateAll operations).2) := by
  induction operations generalizing relay others given with
  | nil => simpa [operateAll, told?, responsesTo] using working
  | cons operation operations ih =>
    have next := working.operate steady admits.1 (apart operation List.mem_cons_self)
    have rest := ih next (steady.operate admits.1) admits.2
      fun later member => apart later (List.mem_cons_of_mem operation member)
    simp only [Option.or_assoc, List.append_assoc, ← responsesTo_append] at rest
    exact rest

end Operations

/-! ### What a batch is answered -/

/-- The responses `given` to `b` are the one of `b.inFlight others` once it is complete, and until
then `b.inFlight others` is in flight. -/
theorem BatchAt.answers {deadline : Nat} {others : String → Option (List Json)}
    {given : List HttpResponse} (working : relay.BatchAt b deadline others given)
    (steady : relay.Steady) :
    given = (b.inFlight others).response?.toList ∧
      ∀ f ∈ relay.inFlight, f.ticket = b.ticket → f = b.inFlight others := by
  cases working.tracks with
  | @working f inside named same =>
    subst same
    rw [steady.unanswered _ inside]
    exact ⟨rfl, fun g held ticket => eq_of_ticket steady.attends.apart held inside ticket⟩
  | answered gone same answer =>
    subst same
    rw [answer]
    exact ⟨rfl, fun g held ticket => absurd ticket (gone g held)⟩

/-- **A batch.** Let `entries` come in as a batch under a `ticket` that is not in use, at any
`reached` relay. Its sends are appended in order: `begun.messages name` is what `name` held and
then `Entry.sentTo name entries`. After any operations `later` that do not use `ticket`, with
`others` for what those let a reader see, the responses to the batch are the one of `batch.inFlight
others` as soon as it is complete; until then that is what is in flight. By `Batch.goesOn` a reader
to whose channel a later entry sends is told at once what its channel holds after the whole batch.
No response comes after `deadline`, one reader's timeout from the start however many readers there
are, and once that has passed there is a response. -/
theorem batch_answers {config : Config} (valid : config.check = .ok ()) {wording : Wording}
    {operations : List Operation} (admitted : (start config wording).Admits operations)
    {reached : Relay}
    (state : reached = ((start config wording).operateAll operations).1)
    (fresh : ∀ f ∈ reached.inFlight, f.ticket ≠ ticket) {request : HttpRequest}
    {entries : List Entry} (asks : reached.submission request = .batch entries) {begun : Relay}
    {finished : List Finished} (begins : reached.begin ticket request = (begun, finished)) :
    let batch : Batch := ⟨ticket, reached.timeline.now, reached.messages, entries⟩
    let deadline := reached.timeline.now + config.receiveTimeout.wait
    deadline ≤ reached.timeline.now + config.receiveTimeout.millis ∧
    (∀ name, begun.messages name = reached.messages name ++ Entry.sentTo name entries) ∧
    ∀ later, begun.Admits later → (∀ operation ∈ later, operation.ticket? ≠ some ticket) →
      let others := fun name => begun.told? deadline name later
      let answered := finished ++ (begun.operateAll later).2
      responsesTo ticket answered = (batch.inFlight others).response?.toList ∧
      (∀ f ∈ (begun.operateAll later).1.inFlight, f.ticket = ticket → f = batch.inFlight others) ∧
      (∀ x ∈ answered, x.ticket = ticket →
        x.time ≤ deadline ∧ x.time ≤ (begun.operateAll later).1.timeline.now) ∧
      (config.receiveTimeout.wait ≤ elapsed later →
        ∃ response, (batch.inFlight others).response? = some response) := by
  have configured : reached.config = config := state ▸ config_operateAll _ operations
  have steady : reached.Steady := state ▸ (steady_start config wording).operateAll admitted
  subst configured
  have submitted : reached.submit ticket true entries = (begun, finished) := by
    rw [← begins, Relay.begin, asks]
  have same : (reached.submit ticket true entries).1 = begun := congrArg Prod.fst submitted
  have steadily : begun.Steady := same ▸ steady.submit fresh true entries
  -- At first all entries have been worked off in order, and some receives among them wait.
  have working := steady.batchAt_submit fresh (Config.wait_pos valid) entries
  have bounded := waitsUntil_submit steady fresh true entries
  rw [submitted] at working bounded
  intro batch deadline
  refine ⟨Nat.add_le_add_left (Duration.wait_le_millis _) _, fun name => ?_,
    fun later admits apart => ?_⟩
  · rw [← same, messages, timeline_submit steady]
    exact toList_logOf_startEntries reached ticket entries 0 name
  · -- By the end of `later` the entries stand at what has been told until then.
    have goesOn := working.operateAll steadily admits apart
    simp only [Option.none_or, ← responsesTo_append] at goesOn
    have last := steadily.operateAll admits
    obtain ⟨responses, there⟩ := goesOn.answers last
    have now : (begun.operateAll later).1.timeline.now = reached.timeline.now + elapsed later := by
      rw [now_operateAll steadily admits, ← same, now_submit steady]
    refine ⟨responses, there, fun x member mine => ?_, fun late => ?_⟩
    · -- The answer is given with the request itself, or when the last reader has been told.
      rcases List.mem_append.1 member with first | rest
      · have told : x ∈ (reached.submit ticket true entries).2 := by rw [submitted]; exact first
        rw [time_of_mem_submit steady told, now]
        exact ⟨Nat.le_add_right _ _, Nat.le_add_right _ _⟩
      · exact time_le_of_mem_operateAll steadily bounded admits apart rest mine
    · obtain ⟨response, single⟩ := goesOn.tracks.exists_response last
        (bounded.operateAll steadily admits apart) (by rw [now]; exact Nat.add_le_add_left late _)
      rw [single] at responses
      exact ⟨response, Option.toList_eq_singleton_iff.1 responses.symm⟩

/-- A batch of a `receive` on channel `a` and then a `send` to it. -/
def relayed : HttpRequest :=
  ⟨"POST", "/", [], ("[\x7b\"id\":1,\"method\":\"receive\",\"params\":[\"a\",0]\x7d," ++
    "\x7b\"method\":\"send\",\"params\":[\"a\",7]\x7d]").toUTF8⟩

/-- The case of `batch_answers` for `relayed` with nothing after it: the reader is told the message
at once. -/
theorem batch_answers_relayed :
    responsesTo .foreground ((start .standard .silent).begin .foreground relayed).2 =
      [HttpResponse.ofAnswer (some (.array
        [resultAnswer (Json.ofUInt64 1) (Slice.toJson ⟨[Json.ofUInt64 7], 1⟩)]))] := by
  let entries : List Entry :=
    [.call (some (Json.ofUInt64 1)) "receive" (some (.array [.string "a", Json.ofUInt64 0])),
      .call none "send" (some (.array [.string "a", Json.ofUInt64 7]))]
  have admitted : (start .standard .silent).Admits [] := trivial
  have fresh : ∀ f ∈ (start .standard .silent).inFlight, f.ticket ≠ .foreground :=
    fun _ inside => nomatch inside
  have asks : (start .standard .silent).submission relayed = .batch entries := rfl
  obtain ⟨begun, finished, begins⟩ : ∃ begun finished,
      (start .standard .silent).begin .foreground relayed = (begun, finished) :=
    ⟨_, _, (Prod.eta _).symm⟩
  have answers := batch_answers Config.check_standard admitted rfl fresh asks begins
  have given := (answers.2.2 [] trivial fun _ member => nomatch member).1
  rw [operateAll, List.append_nil] at given
  rw [begins]
  exact given

end Relay

end StateChannel
