import StateChannel.Proofs.Relay.Rejection

/-!
# Readers and the messages that they see

A reader that waits is woken by the next message that is sent to its channel, and by no other call.
Woken or not, it is told what its log holds when everything has been started.

## Main definitions

* `Call.sends?`, `Entry.sentTo`: the messages that calls send to a channel
* `Timeline.Serves`: a reader waits for what a call asks for
* `Timeline.Finds`: a reader with the requests that start while it waits
* `Relay.Course`: what an operation does to channels and readers

## Main results

* `Relay.toList_logOf_startEntries`: requests add what they send, in order
* `Relay.mem_waits_startEntries`, `Relay.mem_woken_startEntries`: a reader goes on waiting exactly
  when nothing is sent to its channel
* `Relay.told_of_delivery`, `Relay.quiet_of_waits`: so it is with operations, but for the time that
  passes
* `Relay.time_le_of_mem_operateAll`: nothing is answered later than its readers may wait
-/

namespace StateChannel

/-- The message that the call sends to `channel`, if it is a `.send` there. -/
def Call.sends? (channel : String) : Call → Option Json
  | .send name message => if name = channel then some message else none
  | _ => none

/-- The messages that `entries` send to `channel`, in order. -/
def Entry.sentTo (channel : String) (entries : List Entry) : List Json :=
  entries.filterMap fun entry => entry.call?.bind (Call.sends? channel)

namespace Entry

variable {channel : String} {entry : Entry} {entries : List Entry}

theorem sentTo_append (channel : String) (entries later : List Entry) :
    sentTo channel (entries ++ later) = sentTo channel entries ++ sentTo channel later :=
  List.filterMap_append

theorem sentTo_singleton (channel : String) (entry : Entry) :
    sentTo channel [entry] = (entry.call?.bind (Call.sends? channel)).toList := by
  cases sends : entry.call?.bind (Call.sends? channel) with
  | none => exact List.filterMap_cons_none sends
  | some message => exact List.filterMap_cons_some sends

theorem sentTo_cons_of_none (silent : entry.call?.bind (Call.sends? channel) = none) :
    sentTo channel (entry :: entries) = sentTo channel entries :=
  List.filterMap_cons_none silent

theorem sentTo_cons_ne_nil (sends : entry.call?.bind (Call.sends? channel) ≠ none) :
    sentTo channel (entry :: entries) ≠ [] := by
  obtain ⟨message, sends⟩ := Option.ne_none_iff_exists'.1 sends
  have first : sentTo channel (entry :: entries) = message :: sentTo channel entries :=
    List.filterMap_cons_some sends
  exact first ▸ List.cons_ne_nil _ _

end Entry

/-- The reader of `w` waits in the log of `channel` for what lies past `start`, until
`deadline`. -/
structure Timeline.Serves (t : Timeline Place) (deadline : Nat) (w : Wait Place) (channel : String)
    (start : UInt64) : Prop where
  position : w.reader.start = start.toNat
  named : t.registry.find? channel = some w.id
  due : w.deadline = deadline

/-- The reader of `w` waited in `t` already, and `P` holds of what `entries` send to its channel;
or the entry at some place `i` brings it, and `P` holds of what the entries after `i` send to its
channel. -/
def Timeline.Finds (t later : Timeline Place) (deadline : Nat) (ticket : Ticket) (first : Nat)
    (entries : List Entry) (w : Wait Place) (P : List Json → Prop) : Prop :=
  (w ∈ t.waits ∧ ∀ channel, t.registry.find? channel = some w.id →
      P (Entry.sentTo channel entries)) ∨
    ∃ i channel start, w.key = (ticket, first + i) ∧
      entries[i]?.bind Entry.call? = some (.receive channel start) ∧
      later.Serves deadline w channel start ∧ P (Entry.sentTo channel (entries.drop (i + 1)))

/-- The reader of `w` is delivered what lies past its position in the log of `channel`. -/
theorem Timeline.slice_deliver {t : Timeline Place} {w : Wait Place} {channel : String}
    (named : t.registry.find? channel = some w.id) (time : Nat) :
    (t.deliver time w).slice = (t.registry.logOf channel).slice w.reader.start := by
  rw [deliver, Reader.read, Registry.logOf_of_find? named]

namespace Relay

variable {relay : Relay} {ticket : Ticket} {w : Wait Place}

/-! ### One call -/

section Calls

variable {t : Timeline Place} {timeout : Duration} {key : Place} {call : Call}

/-- Invoking `call` appends to the log of `name` what the call sends there. -/
theorem toList_logOf_invoke (t : Timeline Place) (timeout : Duration) (key : Place) (call : Call)
    (name : String) :
    ((invoke t timeout key call).1.registry.logOf name).toList =
      (t.registry.logOf name).toList ++ (call.sends? name).toList := by
  -- Only a send adds to a log. The others at most enter a channel, whose log is empty.
  cases call with
  | send channel message =>
    show ((t.append channel message).1.registry.logOf name).toList = _
    rw [Timeline.logOf_append, Call.sends?]
    by_cases same : channel = name
    · rw [if_pos same.symm, if_pos same, Log.toList_append]
      rfl
    · rw [if_neg (Ne.symm same), if_neg same]
      exact (List.append_nil _).symm
  | getSeq channel =>
    show ((t.registry.enter channel).1.logOf name).toList = _ ++ []
    rw [Registry.logOf_enter, List.append_nil]
  | receive channel start =>
    show ((t.receive key channel start.toNat timeout.wait).1.registry.logOf name).toList = _ ++ []
    rw [Timeline.registry_receive, Registry.logOf_enter, List.append_nil]

/-- A reader that waits after `invoke` waited before it on a channel that `call` does not send to,
or it is the reader of `call` itself. -/
theorem mem_waits_invoke (waits : w ∈ (invoke t timeout key call).1.waits) :
    (w ∈ t.waits ∧ ∀ channel, t.registry.find? channel = some w.id → call.sends? channel = none) ∨
      w.key = key ∧ ∃ channel start, call = .receive channel start ∧
        (invoke t timeout key call).1.Serves (t.now + timeout.wait) w channel start := by
  cases call with
  | send channel message =>
    left
    obtain ⟨old, apart⟩ := List.mem_filter.1 waits
    refine ⟨old, fun other named => ?_⟩
    apply if_neg
    rintro rfl
    -- The channel of the message would be that of the reader, which has been woken.
    have same : (t.registry.enter channel).2 = w.id := by rw [Registry.enter, named]
    exact bne_iff_ne.1 apart same.symm
  | getSeq channel => exact .inl ⟨waits, fun _ _ => rfl⟩
  | receive channel start =>
    by_cases told : start.toNat < (t.registry.logOf channel).seq ∨ timeout.wait = 0
    · simp only [invoke, Timeline.receive_of_told told] at waits
      exact .inl ⟨waits, fun _ _ => rfl⟩
    · rw [not_or, Nat.not_lt] at told
      have brings := Timeline.receive_of_waits told.1 (Nat.pos_of_ne_zero told.2) key
      simp only [invoke, brings] at waits ⊢
      rcases List.mem_append.1 waits with old | new
      · exact .inl ⟨old, fun _ _ => rfl⟩
      · obtain rfl := List.mem_singleton.1 new
        exact .inr ⟨rfl, channel, start, rfl, rfl, Registry.find?_enter _ _, rfl⟩

/-- A reader that is woken after `invoke` was woken before, or it waited on a channel that `call`
sends to. -/
theorem mem_woken_invoke (woken : w ∈ (invoke t timeout key call).1.woken) :
    w ∈ t.woken ∨ w ∈ t.waits ∧ ∀ channel, t.registry.find? channel = some w.id →
      call.sends? channel ≠ none := by
  cases call with
  | send channel message =>
    refine (Timeline.mem_woken_append.1 woken).imp_right fun ⟨old, same⟩ => ⟨old, ?_⟩
    intro other named
    have entered := Registry.find?_enter t.registry channel
    rw [← same] at entered
    -- The reader waits on the channel of the send, so what it waits for has that name.
    have channels := Registry.eq_of_find? entered (Registry.find?_enter_of_find? named channel)
    rw [Call.sends?, if_pos channels]
    exact Option.some_ne_none message
  | getSeq channel => exact .inl woken
  | receive channel start =>
    left
    rcases t.receive_cases key channel start.toNat timeout.wait with ⟨d, told⟩ | ⟨v, -, waited⟩
    · simpa only [invoke, told] using woken
    · simpa only [invoke, waited] using woken

end Calls

/-! ### Requests that start -/

section Starting

variable {entry : Entry} {entries : List Entry} {key : Place} {first : Nat}

theorem now_startEntry (relay : Relay) (key : Place) (entry : Entry) :
    (relay.startEntry key entry).1.timeline.now = relay.timeline.now :=
  (relay.starts_startEntry key.1 key.2 entry).now

theorem config_startEntry (relay : Relay) (key : Place) (entry : Entry) :
    (relay.startEntry key entry).1.config = relay.config := by
  obtain ⟨timeline, metrics, same⟩ := relay.exists_startEntry_eq key entry
  rw [same]

theorem toList_logOf_startEntry (relay : Relay) (key : Place) (entry : Entry) (name : String) :
    ((relay.startEntry key entry).1.timeline.registry.logOf name).toList =
      (relay.timeline.registry.logOf name).toList ++ Entry.sentTo name [entry] := by
  rw [Entry.sentTo_singleton]
  cases made : entry.call? with
  | none =>
    obtain ⟨metrics, answer, started⟩ := startEntry_of_call?_eq_none made relay key
    rw [started]
    exact (List.append_nil _).symm
  | some call =>
    rw [timeline_startEntry_of_call made]
    exact toList_logOf_invoke _ _ _ _ _

theorem mem_waits_startEntry (waits : w ∈ (relay.startEntry key entry).1.timeline.waits) :
    (w ∈ relay.timeline.waits ∧ ∀ channel, relay.timeline.registry.find? channel = some w.id →
        entry.call?.bind (Call.sends? channel) = none) ∨
      w.key = key ∧ ∃ channel start, entry.call? = some (.receive channel start) ∧
        (relay.startEntry key entry).1.timeline.Serves
          (relay.timeline.now + relay.config.receiveTimeout.wait) w channel start := by
  cases made : entry.call? with
  | none =>
    obtain ⟨metrics, answer, started⟩ := startEntry_of_call?_eq_none made relay key
    rw [started] at waits
    exact .inl ⟨waits, fun _ _ => rfl⟩
  | some call =>
    rw [timeline_startEntry_of_call made] at waits ⊢
    refine (mem_waits_invoke waits).imp_right ?_
    rintro ⟨own, channel, start, rfl, serves⟩
    exact ⟨own, channel, start, rfl, serves⟩

theorem mem_woken_startEntry (woken : w ∈ (relay.startEntry key entry).1.timeline.woken) :
    w ∈ relay.timeline.woken ∨ w ∈ relay.timeline.waits ∧ ∀ channel,
      relay.timeline.registry.find? channel = some w.id →
        entry.call?.bind (Call.sends? channel) ≠ none := by
  cases made : entry.call? with
  | none =>
    obtain ⟨metrics, answer, started⟩ := startEntry_of_call?_eq_none made relay key
    rw [started] at woken
    exact .inl woken
  | some call =>
    rw [timeline_startEntry_of_call made] at woken
    exact mem_woken_invoke woken

/-- **Starting `entries` appends what they send**, in order. -/
theorem toList_logOf_startEntries (relay : Relay) (ticket : Ticket) (entries : List Entry)
    (first : Nat) (name : String) :
    ((relay.startEntries ticket entries first).1.timeline.registry.logOf name).toList =
      (relay.timeline.registry.logOf name).toList ++ Entry.sentTo name entries := by
  induction entries generalizing relay first with
  | nil => exact (List.append_nil _).symm
  | cons entry entries ih =>
    refine (ih (relay.startEntry (ticket, first) entry).1 (first + 1)).trans ?_
    rw [toList_logOf_startEntry, List.append_assoc, ← Entry.sentTo_append]
    rfl

/-- A reader that `Finds` describes for `entries`, after `entry` has started, is one that it
describes for `entry :: entries`. -/
theorem finds_cons {P : List Json → Prop}
    (finds : let next := (relay.startEntry (ticket, first) entry).1
      next.timeline.Finds (next.startEntries ticket entries (first + 1)).1.timeline
        (next.timeline.now + next.config.receiveTimeout.wait) ticket (first + 1) entries w P) :
    relay.timeline.Finds (relay.startEntries ticket (entry :: entries) first).1.timeline
      (relay.timeline.now + relay.config.receiveTimeout.wait) ticket first (entry :: entries) w
        P := by
  dsimp only at finds
  rw [now_startEntry, config_startEntry] at finds
  -- A reader is brought by this entry or by a later one.
  rcases finds with ⟨waits, sent⟩ | ⟨i, channel, start, key, asks, serves, sent⟩
  · rcases mem_waits_startEntry waits with ⟨old, quiet⟩ | ⟨key, channel, start, asks, serves⟩
    · refine .inl ⟨old, fun channel named => ?_⟩
      rw [Entry.sentTo_cons_of_none (quiet channel named)]
      exact sent channel (find?_startEntry named _ entry)
    · -- The first request has brought it, and its channel stays where it is.
      have named := find?_startEntries serves.named ticket entries (first + 1)
      exact .inr ⟨0, channel, start, key, asks, ⟨serves.position, named, serves.due⟩,
        sent channel serves.named⟩
  · refine .inr ⟨i + 1, channel, start, ?_, asks, serves, sent⟩
    rw [key, Nat.add_right_comm, Nat.add_assoc]

/-- A reader that waits after `startEntries` waits on a channel that no entry has sent to since it
began to wait. -/
theorem mem_waits_startEntries
    (waits : w ∈ (relay.startEntries ticket entries first).1.timeline.waits) :
    relay.timeline.Finds (relay.startEntries ticket entries first).1.timeline
      (relay.timeline.now + relay.config.receiveTimeout.wait) ticket first entries w (· = []) := by
  induction entries generalizing relay first with
  | nil => exact .inl ⟨waits, fun _ _ => rfl⟩
  | cons entry entries ih => exact finds_cons (ih waits)

/-- A reader that is woken after `startEntries` waited on a channel that an entry has sent to
since. -/
theorem mem_woken_startEntries
    (woken : w ∈ (relay.startEntries ticket entries first).1.timeline.woken) :
    w ∈ relay.timeline.woken ∨
      relay.timeline.Finds (relay.startEntries ticket entries first).1.timeline
        (relay.timeline.now + relay.config.receiveTimeout.wait) ticket first entries w
          (· ≠ []) := by
  induction entries generalizing relay first with
  | nil => exact .inl woken
  | cons entry entries ih =>
    rcases ih woken with earlier | rest
    · -- The first request has woken it, if nobody has done so before.
      refine (mem_woken_startEntry earlier).imp_right fun ⟨old, sends⟩ => .inl ⟨old, ?_⟩
      exact fun channel named => Entry.sentTo_cons_ne_nil (sends channel named)
    · exact .inr (finds_cons rest)

end Starting

/-! ### Operations -/

section Operations

variable {operation : Operation} {channel : String}

/-- What an operation does to the timeline, and the deliveries it makes. -/
inductive Course (relay : Relay) : Operation → Timeline Place → List (Delivery Place) → Prop
  | answered (ticket : Ticket) (request : HttpRequest) :
    Course relay (.begin ticket request) relay.timeline []
  | started (ticket : Ticket) (request : HttpRequest) (entries : List Entry) :
    Course relay (.begin ticket request)
      (relay.startEntries ticket entries 0).1.timeline.resume.1
      (relay.startEntries ticket entries 0).1.timeline.resume.2
  | aborted (ticket : Ticket) :
    Course relay (.abort ticket) (relay.timeline.drop fun key => key.1 == ticket) []
  | passed (millis : Nat) :
    Course relay (.pass millis) (relay.timeline.pass millis).1 (relay.timeline.pass millis).2

theorem course_operate (steady : relay.Steady) (operation : Operation) :
    relay.Course operation (relay.operate operation).1.timeline (relay.deliveries operation) := by
  cases operation with
  | begin ticket request =>
    show relay.Course _ (relay.begin ticket request).1.timeline _
    cases asks : relay.submission request with
    | answered response =>
      simp only [deliveries, Relay.begin, asks]
      exact .answered ticket request
    | single entry =>
      simp only [deliveries, Relay.begin, asks, timeline_submit steady]
      exact .started ticket request [entry]
    | batch entries =>
      simp only [deliveries, Relay.begin, asks, timeline_submit steady]
      exact .started ticket request entries
  | abort ticket => exact .aborted ticket
  | pass millis =>
    show relay.Course _ (relay.pass millis).1.timeline _
    rw [timeline_pass]
    exact .passed millis

/-- Between `relay` and `next` something was appended to the log of `channel`, or the `deadline`
has come. -/
def Stirred (relay next : Relay) (deadline : Nat) (channel : String) : Prop :=
  (relay.timeline.registry.logOf channel).seq < (next.timeline.registry.logOf channel).seq ∨
    deadline ≤ next.timeline.now

instance (relay next : Relay) (deadline : Nat) (channel : String) :
    Decidable (relay.Stirred next deadline channel) :=
  inferInstanceAs (Decidable (_ ∨ _))

theorem seq_startEntries (relay : Relay) (ticket : Ticket) (entries : List Entry) (first : Nat)
    (name : String) :
    ((relay.startEntries ticket entries first).1.timeline.registry.logOf name).seq =
      (relay.timeline.registry.logOf name).seq + (Entry.sentTo name entries).length := by
  rw [← Log.length_toList, ← Log.length_toList, toList_logOf_startEntries, List.length_append]

/-- **A reader is told what the log holds then.** A delivery `d` of `operation` to a reader of
`ticket` is for a wait `w` of `relay`, is no later than `w.deadline`, and tells what the log holds
after `operation`; and its channel was `Stirred`. -/
theorem told_of_delivery (steady : relay.Steady) (other : operation.ticket? ≠ some ticket)
    {d : Delivery Place} (told : d ∈ relay.deliveries operation) (mine : d.key.1 = ticket) :
    ∃ w ∈ relay.timeline.waits, w.key = d.key ∧ d.time ≤ w.deadline ∧
      d.time ≤ (relay.operate operation).1.timeline.now ∧
      ∀ channel, relay.timeline.registry.find? channel = some w.id →
        d.slice = ((relay.operate operation).1.timeline.registry.logOf channel).slice
            w.reader.start ∧
          relay.Stirred (relay.operate operation).1 w.deadline channel := by
  -- The course tells what happened to the time and the readers; the rest does not count here.
  have course := course_operate steady operation
  unfold Stirred
  generalize (relay.operate operation).1.timeline = next at course ⊢
  generalize relay.deliveries operation = deliveries at course told
  cases course with
  | answered => cases told
  | aborted => cases told
  | started first request entries =>
    obtain ⟨w, woken, rfl⟩ := List.mem_map.1 told
    rcases mem_woken_startEntries woken with earlier | ⟨waits, sent⟩ | ⟨i, name, start, key, -⟩
    · rw [steady.woken] at earlier
      cases earlier
    · -- It was woken by a send to its channel, before its deadline.
      refine ⟨w, waits, rfl, ?_, Nat.le_refl _, fun channel named => ⟨?_, .inl ?_⟩⟩
      · refine Nat.le_trans (Nat.le_of_eq ?_) (Nat.le_of_lt (steady.ahead w waits))
        exact (relay.starts_startEntries first entries 0).now
      · exact Timeline.slice_deliver (find?_startEntries named first entries 0) _
      · show _ < ((relay.startEntries first entries 0).1.timeline.registry.logOf channel).seq
        rw [seq_startEntries]
        exact Nat.lt_add_of_pos_right (List.length_pos_iff.2 (sent channel named))
    · -- It would be a reader of the requests that have been started.
      have named : w.key.1 = ticket := mine
      rw [key] at named
      exact absurd (congrArg some named) other
  | passed millis =>
    obtain ⟨w, due, rfl⟩ := List.mem_map.1 told
    obtain ⟨waits, late⟩ := List.mem_filter.1 (List.mem_mergeSort.1 due)
    exact ⟨w, waits, rfl, Nat.le_refl _, of_decide_eq_true late, fun channel named =>
      ⟨Timeline.slice_deliver named _, .inr (of_decide_eq_true late)⟩⟩

/-- A reader of `ticket` that waits after `operation` waited before it, and its channel was not
`Stirred`. -/
theorem quiet_of_waits (steady : relay.Steady) (other : operation.ticket? ≠ some ticket)
    (ahead : ∀ w ∈ (relay.operate operation).1.timeline.waits,
      (relay.operate operation).1.timeline.now < w.deadline)
    (waits : w ∈ (relay.operate operation).1.timeline.waits) (mine : w.key.1 = ticket) :
    w ∈ relay.timeline.waits ∧ ∀ channel,
      relay.timeline.registry.find? channel = some w.id →
        ¬ relay.Stirred (relay.operate operation).1 w.deadline channel := by
  have course := course_operate steady operation
  have early := ahead w waits
  suffices w ∈ relay.timeline.waits ∧ ∀ channel,
      relay.timeline.registry.find? channel = some w.id →
        ((relay.operate operation).1.timeline.registry.logOf channel).seq =
          (relay.timeline.registry.logOf channel).seq by
    refine ⟨this.1, fun channel named => ?_⟩
    rw [Stirred, this.2 channel named]
    omega
  -- What remains is about logs only, case by case in what the operation does.
  clear early ahead
  generalize (relay.operate operation).1.timeline = next at course waits ⊢
  generalize relay.deliveries operation = deliveries at course
  cases course with
  | answered => exact ⟨waits, fun _ _ => rfl⟩
  | aborted => exact ⟨(List.mem_filter.1 waits).1, fun _ _ => rfl⟩
  | passed => exact ⟨(List.mem_filter.1 waits).1, fun _ _ => rfl⟩
  | started first request entries =>
    rcases mem_waits_startEntries waits with ⟨old, sent⟩ | ⟨i, name, start, key, -⟩
    · refine ⟨old, fun channel named => ?_⟩
      show ((relay.startEntries first entries 0).1.timeline.registry.logOf channel).seq = _
      rw [seq_startEntries, sent channel named]
      rfl
    · rw [key] at mine
      exact absurd (congrArg some mine) other

/-! ### When something is answered -/

/-- An answer `x` that is given by `settleAll` is to the submission of one of the `deliveries`, at
the time of that delivery. -/
theorem exists_of_mem_settleAll (unanswered : ∀ f ∈ relay.inFlight, f.response? = none)
    {deliveries : List (Delivery Place)} {x : Finished}
    (given : x ∈ (relay.settleAll deliveries).2) :
    ∃ d ∈ deliveries, d.key.1 = x.ticket ∧ d.time = x.time := by
  induction deliveries generalizing relay with
  | nil => cases given
  | cons d deliveries ih =>
    rcases List.mem_append.1 given with now | later
    · obtain ⟨f, inside, answered⟩ := List.mem_filterMap.1 now
      obtain ⟨response, all, rfl⟩ := Option.map_eq_some_iff.1 answered
      refine ⟨d, List.mem_cons_self, ?_, rfl⟩
      -- Everything else has been left as it is, and that was not answered.
      by_contra apart
      have old : f ∈ relay.inFlight := by
        unfold settle at inside
        split at inside
        · exact inside
        · obtain ⟨g, held, changed⟩ := List.mem_map.1 inside
          split at changed
          · next same => exact absurd (changed ▸ same.symm) apart
          · exact changed ▸ held
      rw [unanswered f old] at all
      cases all
    · obtain ⟨e, member, found⟩ := ih (fun f inside => by
        simpa using (List.mem_filter.1 inside).2) later
      exact ⟨e, List.mem_cons_of_mem d member, found⟩

/-- An answer `x` that is given by `submit` is to the submission itself, now, or is given by the
delivery to a reader that was woken. -/
theorem exists_of_mem_submit (steady : relay.Steady) {first : Ticket} {isBatch : Bool}
    {entries : List Entry} {x : Finished} (given : x ∈ (relay.submit first isBatch entries).2) :
    (x.ticket = first ∧ x.time = relay.timeline.now) ∨
      ∃ d ∈ (relay.taking first isBatch entries).timeline.resume.2,
        d.key.1 = x.ticket ∧ d.time = x.time := by
  rw [submit_eq steady.unanswered] at given
  rcases List.mem_append.1 given with now | later
  · obtain ⟨f, inside, answered⟩ := List.mem_filterMap.1 now
    obtain ⟨response, all, rfl⟩ := Option.map_eq_some_iff.1 answered
    -- Those from before have no answer yet, so what is finished now is new.
    rcases List.mem_append.1 inside with old | new
    · rw [steady.unanswered f old] at all
      cases all
    · rw [List.mem_singleton.1 new]
      exact .inl ⟨rfl, (relay.starts_startEntries first entries 0).now⟩
  · obtain ⟨d, member, found⟩ := exists_of_mem_settleAll
      (fun f inside => by simpa using (List.mem_filter.1 inside).2) later
    exact .inr ⟨d, (goOnOrder_perm _ _ _).mem_iff.1 member, found⟩

theorem time_of_mem_submit (steady : relay.Steady) {first : Ticket} {isBatch : Bool}
    {entries : List Entry} {x : Finished} (given : x ∈ (relay.submit first isBatch entries).2) :
    x.time = relay.timeline.now := by
  rcases exists_of_mem_submit steady given with ⟨-, time⟩ | ⟨d, told, -, time⟩
  · exact time
  · obtain ⟨w, -, rfl⟩ := List.mem_map.1 told
    exact time.symm.trans (relay.starts_startEntries first entries 0).now

/-- An answer `x` to `ticket` that another `operation` gives is given by one of its deliveries to a
reader of `ticket`. -/
theorem exists_of_mem_operate (steady : relay.Steady) (other : operation.ticket? ≠ some ticket)
    {x : Finished} (given : x ∈ (relay.operate operation).2) (mine : x.ticket = ticket) :
    ∃ d ∈ relay.deliveries operation, d.key.1 = ticket ∧ d.time = x.time := by
  subst mine
  cases operation with
  | begin first request =>
    have apart : x.ticket ≠ first := fun same => other (congrArg some same.symm)
    replace given : x ∈ (relay.begin first request).2 := given
    cases asks : relay.submission request with
    | answered response =>
      simp only [Relay.begin, asks] at given
      exact absurd (congrArg Finished.ticket (List.mem_singleton.1 given)) apart
    | single entry =>
      simp only [Relay.begin, asks] at given
      simp only [deliveries, asks]
      exact (exists_of_mem_submit steady given).resolve_left fun own => apart own.1
    | batch entries =>
      simp only [Relay.begin, asks] at given
      simp only [deliveries, asks]
      exact (exists_of_mem_submit steady given).resolve_left fun own => apart own.1
  | abort first => cases given
  | pass millis =>
    have unanswered : ∀ f ∈ ({ relay with timeline := (relay.timeline.pass millis).1 } :
        Relay).inFlight, f.response? = none := steady.unanswered
    obtain ⟨d, member, found⟩ := exists_of_mem_settleAll unanswered given
    exact ⟨d, List.mem_mergeSort.1 ((gather_perm _).mem_iff.1 member), found⟩

/-- If the readers of `ticket` wait until `limit` at most, no answer to `ticket` is later than
`limit`. -/
theorem time_le_of_mem_operateAll (steady : relay.Steady) {limit : Nat}
    (bounded : relay.WaitsUntil ticket limit) {operations : List Operation}
    (admits : relay.Admits operations)
    (others : ∀ operation ∈ operations, operation.ticket? ≠ some ticket) {x : Finished}
    (given : x ∈ (relay.operateAll operations).2) (mine : x.ticket = ticket) :
    x.time ≤ limit ∧ x.time ≤ (relay.operateAll operations).1.timeline.now := by
  induction operations generalizing relay with
  | nil => cases given
  | cons operation operations ih =>
    have other := others operation List.mem_cons_self
    have steadily := steady.operate admits.1
    rcases List.mem_append.1 given with now | later
    · obtain ⟨d, member, named, time⟩ := exists_of_mem_operate steady other now mine
      obtain ⟨w, waits, key, due, early, -⟩ := told_of_delivery steady other member named
      -- The reader is told by its deadline, and that is no later than the limit.
      have limited := bounded w waits (key ▸ named)
      have goesOn : (relay.operateAll (operation :: operations)).1.timeline.now =
          (relay.operate operation).1.timeline.now + elapsed operations :=
        now_operateAll steadily admits.2
      omega
    · exact ih steadily (bounded.operate steady other) admits.2
        (fun next member => others next (List.mem_cons_of_mem operation member)) later

end Operations

end Relay

end StateChannel
