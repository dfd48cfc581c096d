import StateChannel.Proofs.Relay.Separation

/-!
# How long a reader waits

When readers begin, wait, are woken, leave or are dropped in any order, every one of them is told
what it would be told alone. To one reader a board without the others passes through three stages:
it waits, it has been woken, and it is gone.

## Main definitions

* `Timeline.Event.isTurnOf`: an event at which a woken reader goes on
* `Timeline.AppendsWithin`: a message comes before a limit of time
* `Board.Stage`: what there is of one reader on a board
* `Timeline.ToldInTime`: when a reader is told, and what

## Main results

* `Board.Stage.step_alone`, `Board.Stage.step_begins`: a reader goes its way as if it were alone
* `Board.Stage.run_waits`, `Board.Stage.run_woken`, `Board.Stage.run_gone`: its three stages
* `Timeline.now_run`: the clock shows the time that has passed
* `Timeline.toList_logOf_run`: a log holds what was sent, whoever has read it
* `Timeline.toldInTime`, `Timeline.readers_told_in_time`: every reader is told in time
-/

namespace StateChannel

namespace Timeline

variable {κ : Type}

/-- The event lets `reader` go on when it has been woken: its `.resume`, or any `.pass`. -/
def Event.isTurnOf [DecidableEq κ] (reader : String × κ) : Event κ → Bool
  | .resume channel key => (channel, key) = reader
  | .pass _ => true
  | _ => false

/-- A message is appended to `channel` among `events` before `limit` has elapsed. -/
def AppendsWithin (channel : String) (limit : Nat) (events : List (Event κ)) : Prop :=
  ∃ earlier message later, events = earlier ++ .append channel message :: later ∧
    elapsed earlier < limit

@[simp]
theorem sent_append (channel : String) (events later : List (Event κ)) :
    sent channel (events ++ later) = sent channel events ++ sent channel later := by
  induction events with
  | nil => rfl
  | cons event events ih =>
    cases event with
    | append c message => by_cases same : c = channel <;> simp [sent, same, ih]
    | _ => exact ih

@[simp]
theorem elapsed_append (events later : List (Event κ)) :
    elapsed (events ++ later) = elapsed events + elapsed later := by
  induction events with
  | nil => simp [elapsed]
  | cons event events ih =>
    cases event with
    | pass millis => simp [elapsed, ih, Nat.add_assoc]
    | _ => exact ih

/-- Where something is `sent` to `channel`, there is a first `.append`. -/
theorem exists_first_append {channel : String} {events : List (Event κ)}
    (some_sent : sent channel events ≠ []) :
    ∃ earlier message later, events = earlier ++ .append channel message :: later ∧
      sent channel earlier = [] := by
  induction events with
  | nil => exact absurd rfl some_sent
  | cons event events ih =>
    by_cases here : ∃ message, event = .append channel message
    · obtain ⟨message, rfl⟩ := here
      exact ⟨[], message, events, rfl, rfl⟩
    · -- Nothing is sent to `channel` by this event, so the first append is among the others.
      have skip (later : List (Event κ)) : sent channel (event :: later) = sent channel later := by
        cases event with
        | append c message =>
          have other : c ≠ channel := fun same => here ⟨message, same ▸ rfl⟩
          simp [sent, other]
        | _ => rfl
      rw [skip] at some_sent
      obtain ⟨earlier, message, rest, rfl, silent⟩ := ih some_sent
      exact ⟨event :: earlier, message, rest, rfl, (skip earlier).trans silent⟩

/-- Where something is appended within `limit`, the first `.append` comes before `limit` has
elapsed. -/
theorem AppendsWithin.first {channel : String} {limit : Nat} {events : List (Event κ)}
    (appends : AppendsWithin channel limit events) :
    ∃ earlier message later, events = earlier ++ .append channel message :: later ∧
      sent channel earlier = [] ∧ elapsed earlier < limit := by
  obtain ⟨earlier, message, later, rfl, within⟩ := appends
  by_cases silent : sent channel earlier = []
  · exact ⟨earlier, message, later, rfl, silent, within⟩
  · obtain ⟨first, message', rest, rfl, silent'⟩ := exists_first_append silent
    refine ⟨first, message', rest ++ .append channel message :: later, by simp, silent', ?_⟩
    rw [elapsed_append] at within
    omega

/-- A `moment` that lies within the elapsed time comes during some `.pass millis`. -/
theorem exists_pass_of_le_elapsed {moment : Nat} (ahead : 0 < moment) {events : List (Event κ)}
    (comes : moment ≤ elapsed events) :
    ∃ earlier millis later, events = earlier ++ .pass millis :: later ∧
      elapsed earlier < moment ∧ moment ≤ elapsed earlier + millis := by
  induction events generalizing moment with
  | nil => exact absurd comes (Nat.not_le.2 ahead)
  | cons event events ih =>
    by_cases here : ∃ millis, event = .pass millis ∧ moment ≤ millis
    · obtain ⟨millis, rfl, reached⟩ := here
      exact ⟨[], millis, events, rfl, ahead, by simpa [elapsed] using reached⟩
    · -- The moment lies in the rest, nearer by the time that passes now.
      have split : ∃ millis, millis < moment ∧ elapsed (event :: events) = millis + elapsed events ∧
          ∀ later : List (Event κ), elapsed (event :: later) = millis + elapsed later := by
        cases event with
        | pass millis =>
          refine ⟨millis, ?_, rfl, fun later => rfl⟩
          by_contra late
          exact here ⟨millis, rfl, Nat.not_lt.1 late⟩
        | _ => exact ⟨0, ahead, (Nat.zero_add _).symm, fun later => (Nat.zero_add _).symm⟩
      obtain ⟨spent, short, total, prefixed⟩ := split
      obtain ⟨earlier, millis, later, rfl, before, reached⟩ :=
        ih (Nat.sub_pos_of_lt short) (by omega)
      refine ⟨event :: earlier, millis, later, rfl, ?_, ?_⟩
      · rw [prefixed]
        omega
      · rw [prefixed]
        omega

end Timeline

namespace Board

variable {κ : Type} [DecidableEq κ]

theorem now_run (b : Board (String × κ)) (events : List (Timeline.Event κ)) :
    (b.run events).1.now = b.now + Timeline.elapsed events := by
  induction events generalizing b with
  | nil => rfl
  | cons event events ih =>
    rw [Board.run, ih]
    cases event with
    | receive channel key start timeout =>
      by_cases told : start < (b.log channel).seq ∨ timeout = 0 <;>
        simp [Board.step, receive, told, Timeline.elapsed]
    | pass millis => exact Nat.add_assoc _ _ _
    | _ => rfl

/-- After `events` the log of `channel` holds what it held before and what was `sent` to it. -/
theorem toList_log_run (b : Board (String × κ)) (events : List (Timeline.Event κ))
    (channel : String) :
    ((b.run events).1.log channel).toList =
      (b.log channel).toList ++ Timeline.sent channel events := by
  induction events generalizing b with
  | nil => exact (List.append_nil _).symm
  | cons event events ih =>
    rw [Board.run, ih]
    -- Only an append changes what is in a log, and only in its own.
    cases event with
    | append c message =>
      by_cases same : c = channel
      · simp [Board.step, Board.append, Timeline.sent, same, Log.toList_append]
      · simp [Board.step, Board.append, Timeline.sent, same, Ne.symm same]
    | receive c key start timeout =>
      by_cases told : start < (b.log c).seq ∨ timeout = 0 <;>
        simp [Board.step, receive, told, Timeline.sent]
    | _ => rfl

/-! ### The stages of a reader -/

/-- The `waits` and `woken` of the board `b` that belong to `reader`. -/
structure Stage (b : Board (String × κ)) (reader : String × κ)
    (waits woken : List (Standing (String × κ))) : Prop where
  waits : (b.waits.filter fun w => w.key = reader) = waits
  woken : (b.woken.filter fun w => w.key = reader) = woken

variable {b : Board (String × κ)} {reader : String × κ}
  {waits woken : List (Standing (String × κ))}

/-- A `.receive` of another reader does not change the stage of `reader`, and `reader` is told
nothing. -/
theorem Stage.step_begins (stage : b.Stage reader waits woken) {channel : String} {key : κ}
    (other : (channel, key) ≠ reader) (start timeout : Nat) :
    (b.step (.receive channel key start timeout)).1.Stage reader waits woken ∧
      ((b.step (.receive channel key start timeout)).2.told.filter fun d => d.key = reader) = [] := by
  have hidden : decide ((channel, key) ≠ reader) = true := decide_eq_true other
  obtain ⟨after, told⟩ := b.drop_step_of_hidden (fun k => k ≠ reader) hidden start timeout
  have waits' := congrArg Board.waits after
  have woken' := congrArg Board.woken after
  simp only [drop, decide_not, Bool.not_not, stage.waits, stage.woken] at waits' woken'
  exact ⟨⟨waits', woken'⟩, by simpa using told⟩

/-- Every `event` but a `.receive` does to the stage of `reader`, and tells `reader`, what it would
if `reader` were alone on the board. -/
theorem Stage.step_alone (stage : b.Stage reader waits woken) (event : Timeline.Event κ)
    (shown : ∀ channel key start timeout, event ≠ .receive channel key start timeout) :
    (b.step event).1.Stage reader (({ b with waits, woken } : Board (String × κ)).step event).1.waits
        (({ b with waits, woken } : Board (String × κ)).step event).1.woken ∧
      ((b.step event).2.told.filter fun d => d.key = reader) =
        (({ b with waits, woken } : Board (String × κ)).step event).2.told := by
  have alone : b.drop (fun k => k ≠ reader) = { b with waits, woken } := by
    simp [drop, stage.waits, stage.woken]
  obtain ⟨after, told⟩ := b.drop_step (fun k => k ≠ reader)
    fun channel key start timeout same => absurd same (shown channel key start timeout)
  rw [alone] at after told
  exact ⟨⟨by rw [← after]; simp [drop], by rw [← after]; simp [drop]⟩, by simpa using told⟩

/-- A `reader` of whom the board has nothing stays so as long as no `.receive` of it comes, and is
told nothing. -/
theorem Stage.run_gone (gone : b.Stage reader [] []) {events : List (Timeline.Event κ)}
    (once : ∀ start timeout, .receive reader.1 reader.2 start timeout ∉ events) :
    (b.run events).1.Stage reader [] [] ∧ Timeline.toldTo reader (b.run events).2 = [] := by
  induction events generalizing b with
  | nil => exact ⟨gone, rfl⟩
  | cons event events ih =>
    have step : (b.step event).1.Stage reader [] [] ∧
        ((b.step event).2.told.filter fun d => d.key = reader) = [] := by
      -- A reader that is gone comes back with a receive alone, and there is none of its key.
      cases event with
      | receive channel key start timeout =>
        have other : (channel, key) ≠ reader := by
          rintro rfl
          exact once start timeout List.mem_cons_self
        exact gone.step_begins other start timeout
      | pass millis =>
        obtain ⟨after, told⟩ := gone.step_alone (.pass millis) (by simp)
        exact ⟨after, by simpa [Board.step, resumeWhere, pass] using told⟩
      | _ => exact gone.step_alone _ (by simp)
    obtain ⟨after, rest⟩ := ih step.1 fun start timeout member =>
      once start timeout (List.mem_cons_of_mem _ member)
    exact ⟨after, by rw [toldTo_run_cons, step.2, rest]; rfl⟩

/-- A woken reader is delivered what the log holds if `event` is its turn; otherwise it stays
woken, no time passes, and it is told nothing. -/
theorem Stage.step_woken {w : Standing (String × κ)} (woken : b.Stage w.key [] [w])
    {event : Timeline.Event κ}
    (once : ∀ start timeout, event ≠ .receive w.key.1 w.key.2 start timeout)
    (stays : event ≠ .drop w.key.1 w.key.2) :
    if event.isTurnOf w.key then
      (b.step event).1.Stage w.key [] [] ∧
        ((b.step event).2.told.filter fun d => d.key = w.key) = [b.deliver b.now w]
    else
      (b.step event).1.Stage w.key [] [w] ∧ (b.step event).1.now = b.now ∧
        ((b.step event).2.told.filter fun d => d.key = w.key) = [] := by
  -- A woken reader is told at its own turn, and until then no event does anything to it.
  cases event with
  | receive channel key start timeout =>
    have other : (channel, key) ≠ w.key := fun same => once start timeout (by rw [← same])
    obtain ⟨after, told⟩ := woken.step_begins other start timeout
    exact ⟨after, b.now_run [.receive channel key start timeout], told⟩
  | append channel message =>
    obtain ⟨after, told⟩ := woken.step_alone (.append channel message) (by simp)
    exact ⟨after, rfl, told⟩
  | seq channel =>
    obtain ⟨after, told⟩ := woken.step_alone (.seq channel) (by simp)
    exact ⟨after, rfl, told⟩
  | drop channel key =>
    have other : w.key ≠ (channel, key) := fun same => stays (by rw [same])
    have kept : ([w].filter fun w => !decide (w.key = (channel, key))) = [w] := by simp [other]
    obtain ⟨after, told⟩ := woken.step_alone (.drop channel key) (by simp)
    simp only [Board.step, Board.drop, kept] at after
    exact ⟨after, rfl, told⟩
  | resume channel key =>
    have alone := woken.step_alone (.resume channel key) (by simp)
    by_cases same : w.key = (channel, key)
    · have turn : Timeline.Event.isTurnOf w.key (.resume channel key) = true := by
        simp [Timeline.Event.isTurnOf, same]
      rw [if_pos turn]
      simpa [Board.step, resumeWhere, same, deliver] using alone
    · have turn : ¬ Timeline.Event.isTurnOf w.key (.resume channel key) = true := by
        simp [Timeline.Event.isTurnOf, Ne.symm same]
      rw [if_neg turn]
      simpa [Board.step, resumeWhere, same] using alone
  | pass millis =>
    simpa [Board.step, resumeWhere, pass, deliver, Timeline.Event.isTurnOf]
      using woken.step_alone (.pass millis) (by simp)

/-- A woken reader is told at its first turn among `events` what the log holds then, and otherwise
nothing. -/
theorem Stage.run_woken {w : Standing (String × κ)} (woken : b.Stage w.key [] [w])
    {events : List (Timeline.Event κ)}
    (once : ∀ start timeout, .receive w.key.1 w.key.2 start timeout ∉ events)
    (stays : .drop w.key.1 w.key.2 ∉ events) :
    Timeline.toldTo w.key (b.run events).2 =
      if events.any (·.isTurnOf w.key) then
        [⟨w.key,
          Slice.ofLog ((b.log w.channel).toList ++
            Timeline.sent w.channel (events.takeWhile fun e => !e.isTurnOf w.key)) w.reader.start,
          b.now, w.deadline⟩]
      else [] := by
  induction events generalizing b with
  | nil => rfl
  | cons event events ih =>
    have once' : ∀ start timeout, .receive w.key.1 w.key.2 start timeout ∉ events :=
      fun start timeout member => once start timeout (List.mem_cons_of_mem _ member)
    -- Until its turn the clock stands, since time does not pass before the turns of all.
    have step := woken.step_woken
      (fun start timeout same => once start timeout (same ▸ List.mem_cons_self))
      (fun same => stays (same ▸ List.mem_cons_self))
    rw [toldTo_run_cons]
    by_cases turn : event.isTurnOf w.key = true
    · rw [if_pos turn] at step
      rw [step.2, (step.1.run_gone once').2]
      simp [turn, Timeline.sent, deliver, Reader.read, Log.slice]
    · rw [if_neg turn] at step
      obtain ⟨after, now, told⟩ := step
      have log := b.toList_log_run [event] w.channel
      rw [told, ih after once' (fun member => stays (List.mem_cons_of_mem _ member)), now]
      simp only [Board.run] at log
      simp only [Bool.not_eq_true] at turn
      simp only [log, List.any_cons, turn, Bool.false_or, List.takeWhile_cons, Bool.not_false,
        if_true, List.nil_append, List.append_assoc]
      rw [← Timeline.sent_append, List.singleton_append]

/-- A reader that waits goes on waiting if `event` sends nothing to its channel and does not reach
its deadline. -/
theorem Stage.step_waits {w : Standing (String × κ)} (waits : b.Stage w.key [w] [])
    {event : Timeline.Event κ}
    (once : ∀ start timeout, event ≠ .receive w.key.1 w.key.2 start timeout)
    (stays : event ≠ .drop w.key.1 w.key.2)
    (silent : Timeline.sent w.channel [event] = [])
    (ahead : b.now + Timeline.elapsed [event] < w.deadline) :
    (b.step event).1.Stage w.key [w] [] ∧
      ((b.step event).2.told.filter fun d => d.key = w.key) = [] := by
  -- The reader could only be woken by an append to its channel, or told at its deadline.
  cases event with
  | receive channel key start timeout =>
    have other : (channel, key) ≠ w.key := fun same => once start timeout (by rw [← same])
    exact waits.step_begins other start timeout
  | append channel message =>
    have other : w.channel ≠ channel := by
      rintro rfl
      simp [Timeline.sent] at silent
    simpa [Board.step, Board.append, other] using waits.step_alone (.append channel message) (by simp)
  | seq channel => exact waits.step_alone (.seq channel) (by simp)
  | drop channel key =>
    have other : w.key ≠ (channel, key) := fun same => stays (by rw [same])
    simpa [Board.step, Board.drop, other] using waits.step_alone (.drop channel key) (by simp)
  | resume channel key => exact waits.step_alone (.resume channel key) (by simp)
  | pass millis =>
    have later : b.now + millis < w.deadline := ahead
    simpa [Board.step, resumeWhere, pass, later] using waits.step_alone (.pass millis) (by simp)

theorem Stage.run_waits {w : Standing (String × κ)} (waits : b.Stage w.key [w] [])
    {events : List (Timeline.Event κ)}
    (once : ∀ start timeout, .receive w.key.1 w.key.2 start timeout ∉ events)
    (stays : .drop w.key.1 w.key.2 ∉ events)
    (silent : Timeline.sent w.channel events = [])
    (ahead : b.now + Timeline.elapsed events < w.deadline) :
    (b.run events).1.Stage w.key [w] [] ∧ Timeline.toldTo w.key (b.run events).2 = [] := by
  induction events generalizing b with
  | nil => exact ⟨waits, rfl⟩
  | cons event events ih =>
    -- Silence and time split into those of this event and those of the rest.
    have parts := List.append_eq_nil_iff.1
      ((Timeline.sent_append w.channel [event] events).symm.trans silent)
    have time := Timeline.elapsed_append [event] events
    rw [List.singleton_append] at time
    obtain ⟨after, told⟩ := waits.step_waits
      (fun start timeout same => once start timeout (same ▸ List.mem_cons_self))
      (fun same => stays (same ▸ List.mem_cons_self)) parts.1 (by omega)
    have now : (b.step event).1.now = b.now + Timeline.elapsed [event] := b.now_run [event]
    obtain ⟨after, rest⟩ := ih after
      (fun start timeout member => once start timeout (List.mem_cons_of_mem _ member))
      (fun member => stays (List.mem_cons_of_mem _ member)) parts.2 (by omega)
    exact ⟨after, by rw [toldTo_run_cons, told, rest]; rfl⟩

/-- An append to its channel wakes the reader of `w`, which is told nothing yet. -/
theorem Stage.step_append {w : Standing (String × κ)} (waits : b.Stage w.key [w] [])
    (message : Json) :
    (b.step (.append w.channel message)).1.Stage w.key [] [w] ∧
      ((b.step (.append w.channel message)).2.told.filter fun d => d.key = w.key) = [] := by
  simpa [Board.step, Board.append] using waits.step_alone (.append w.channel message) (by simp)

/-- A reader that waits leaves at its deadline, if `.pass millis` reaches it, with what its log
holds. -/
theorem Stage.step_pass {w : Standing (String × κ)} (waits : b.Stage w.key [w] []) {millis : Nat}
    (due : w.deadline ≤ b.now + millis) :
    (b.step (.pass millis)).1.Stage w.key [] [] ∧
      ((b.step (.pass millis)).2.told.filter fun d => d.key = w.key) =
        [b.deliver w.deadline w] := by
  simpa [Board.step, resumeWhere, pass, due, deliver] using waits.step_alone (.pass millis) (by simp)

/-- A reader that begins at a `start` before the end of the log is told at once what lies past
`start`. -/
theorem Stage.step_receive_of_lt {channel : String} {key : κ} (gone : b.Stage (channel, key) [] [])
    {start : Nat} (past : start < (b.log channel).seq) (timeout : Nat) :
    (b.step (.receive channel key start timeout)).1.Stage (channel, key) [] [] ∧
      ((b.step (.receive channel key start timeout)).2.told.filter
        fun d => d.key = (channel, key)) =
          [⟨(channel, key), (b.log channel).slice start, b.now, b.now + timeout⟩] := by
  rw [Board.step, Board.receive, if_pos (.inl past)]
  exact ⟨gone, by simp⟩

/-- A reader that begins at a `start` that is not before the end of the log waits. -/
theorem Stage.step_receive_of_le {channel : String} {key : κ} (gone : b.Stage (channel, key) [] [])
    {start timeout : Nat} (nothing : (b.log channel).seq ≤ start) (long : 0 < timeout) :
    (b.step (.receive channel key start timeout)).1.Stage (channel, key)
        [⟨(channel, key), channel, (b.log channel).subscribe start, b.now + timeout⟩] [] ∧
      ((b.step (.receive channel key start timeout)).2.told.filter
        fun d => d.key = (channel, key)) = [] := by
  rw [Board.step, Board.receive, if_neg (by omega)]
  refine ⟨⟨?_, gone.woken⟩, rfl⟩
  rw [List.filter_append, gone.waits]
  simp

/-- A reader that waits is woken by the first `message` to its channel, if it comes before the
deadline, and told at its first turn in `later`. -/
theorem Stage.told_of_append {w : Standing (String × κ)} (waits : b.Stage w.key [w] [])
    {earlier later : List (Timeline.Event κ)} {message : Json}
    (once : ∀ start timeout, .receive w.key.1 w.key.2 start timeout ∉
      earlier ++ .append w.channel message :: later)
    (stays : .drop w.key.1 w.key.2 ∉ earlier ++ .append w.channel message :: later)
    (silent : Timeline.sent w.channel earlier = [])
    (ahead : b.now + Timeline.elapsed earlier < w.deadline) :
    Timeline.toldTo w.key (b.run (earlier ++ .append w.channel message :: later)).2 =
      if later.any (·.isTurnOf w.key) then
        [⟨w.key,
          Slice.ofLog ((b.log w.channel).toList ++ message ::
            Timeline.sent w.channel (later.takeWhile fun e => !e.isTurnOf w.key)) w.reader.start,
          b.now + Timeline.elapsed earlier, w.deadline⟩]
      else [] := by
  simp only [List.mem_append, List.mem_cons, not_or] at once stays
  -- The reader waits until the append, which wakes it, and then it waits for its turn.
  obtain ⟨waiting, nothing⟩ := waits.run_waits (fun f T => (once f T).1) stays.1 silent ahead
  obtain ⟨woken, nothing'⟩ := waiting.step_append message
  have told := woken.run_woken (fun f T => (once f T).2.2) stays.2.2
  have log := b.toList_log_run (earlier ++ [.append w.channel message]) w.channel
  have now := b.now_run (earlier ++ [.append w.channel message])
  rw [Board.run_append] at log now
  simp only [Board.run] at log now
  rw [log, now] at told
  rw [Board.run_append, Timeline.toldTo_append, nothing, toldTo_run_cons, nothing', told]
  simp [Timeline.sent, Timeline.elapsed, silent]

/-- A reader to whose channel nothing is appended within its `timeout` leaves at the deadline, if
the `events` take that long. -/
theorem Stage.told_of_silence {w : Standing (String × κ)} (waits : b.Stage w.key [w] [])
    {events : List (Timeline.Event κ)}
    (once : ∀ start timeout, .receive w.key.1 w.key.2 start timeout ∉ events)
    (stays : .drop w.key.1 w.key.2 ∉ events) {timeout : Nat} (long : 0 < timeout)
    (deadline : w.deadline = b.now + timeout)
    (silence : ¬ Timeline.AppendsWithin w.channel timeout events) :
    Timeline.toldTo w.key (b.run events).2 =
      if timeout ≤ Timeline.elapsed events then
        [⟨w.key, Slice.ofLog (b.log w.channel).toList w.reader.start, w.deadline, w.deadline⟩]
      else [] := by
  -- Nothing is sent before time is up.
  have silent {earlier later : List (Timeline.Event κ)} (cut : events = earlier ++ later)
      (short : Timeline.elapsed earlier < timeout) : Timeline.sent w.channel earlier = [] := by
    by_contra sent
    obtain ⟨first, message, rest, rfl, _⟩ := Timeline.exists_first_append sent
    refine silence ⟨first, message, rest ++ later, by simp [cut], ?_⟩
    rw [Timeline.elapsed_append] at short
    omega
  by_cases up : timeout ≤ Timeline.elapsed events
  · rw [if_pos up]
    obtain ⟨earlier, millis, later, rfl, before, reached⟩ :=
      Timeline.exists_pass_of_le_elapsed long up
    simp only [List.mem_append, List.mem_cons, not_or] at once stays
    have quiet := silent rfl before
    obtain ⟨waiting, nothing⟩ :=
      waits.run_waits (fun f T => (once f T).1) stays.1 quiet (by omega)
    have now := b.now_run earlier
    have log := b.toList_log_run earlier w.channel
    have due : w.deadline ≤ (b.run earlier).1.now + millis := by omega
    obtain ⟨gone, told⟩ := waiting.step_pass due
    rw [quiet, List.append_nil] at log
    rw [Board.run_append, Timeline.toldTo_append, nothing, toldTo_run_cons, told,
      (gone.run_gone fun f T => (once f T).2.2).2]
    simp [deliver, Reader.read, Log.slice, log]
  · rw [if_neg up]
    have quiet := silent (List.append_nil events).symm (Nat.not_le.1 up)
    exact (waits.run_waits once stays quiet (by omega)).2

end Board

namespace Timeline

variable {κ : Type} [DecidableEq κ]

/-- What is `told` to the reader `(channel, key)` that begins with `start` and `timeout` between
the events `before` and `after`. -/
structure ToldInTime (channel : String) (key : κ) (start timeout : Nat)
    (before after : List (Event κ)) (told : List (Delivery (String × κ))) : Prop where
  /-- If `start` lies before the end of the log, the reader is told at once what lies past it. -/
  at_once : start < (sent channel before).length →
    told = [⟨(channel, key), Slice.ofLog (sent channel before) start, elapsed before,
      elapsed before + timeout⟩]
  /-- Otherwise, if the first `message` comes before `timeout` has elapsed, the reader is told at
  its turn, with the time of that append and all messages that are there at the turn. -/
  woken : (sent channel before).length ≤ start → ∀ earlier message later,
    after = earlier ++ .append channel message :: later → sent channel earlier = [] →
      elapsed earlier < timeout →
      told = if later.any (·.isTurnOf (channel, key)) then
        [⟨(channel, key),
          Slice.ofLog (sent channel before ++ message ::
            sent channel (later.takeWhile fun e => !e.isTurnOf (channel, key))) start,
          elapsed before + elapsed earlier, elapsed before + timeout⟩]
      else []
  /-- Otherwise, if none comes within `timeout`, the reader is told what the log held from the
  beginning, at its deadline. -/
  waited_out : (sent channel before).length ≤ start → ¬ AppendsWithin channel timeout after →
    told = if timeout ≤ elapsed after then
      [⟨(channel, key), Slice.ofLog (sent channel before) start, elapsed before + timeout,
        elapsed before + timeout⟩]
    else []

namespace ToldInTime

variable {channel : String} {key : κ} {start timeout : Nat} {before after : List (Event κ)}
  {told : List (Delivery (String × κ))}

/-- The reader is told once and by its deadline, or not yet and `timeout` has not elapsed. -/
theorem told_once (timely : ToldInTime channel key start timeout before after told) :
    told = [] ∧ elapsed after < timeout ∨
      ∃ d, told = [d] ∧ elapsed before ≤ d.time ∧ d.time ≤ elapsed before + timeout := by
  by_cases past : start < (sent channel before).length
  · exact .inr ⟨_, timely.at_once past, Nat.le_refl _, Nat.le_add_right _ _⟩
  rw [Nat.not_lt] at past
  by_cases appends : AppendsWithin channel timeout after
  · obtain ⟨earlier, message, later, rfl, silent, within⟩ := appends.first
    have woken := timely.woken past earlier message later rfl silent within
    by_cases turn : later.any (·.isTurnOf (channel, key)) = true
    · rw [if_pos turn] at woken
      exact .inr ⟨_, woken, Nat.le_add_right _ _, by dsimp only; omega⟩
    · rw [if_neg turn] at woken
      refine .inl ⟨woken, ?_⟩
      -- If time passed, that would be its turn.
      have still : elapsed later = 0 := by
        by_contra passes
        obtain ⟨first, millis, rest, rfl, _⟩ :=
          exists_pass_of_le_elapsed Nat.one_pos (Nat.pos_of_ne_zero passes)
        simp [Event.isTurnOf] at turn
      simpa [elapsed, still] using within
  · have waited := timely.waited_out past appends
    by_cases up : timeout ≤ elapsed after
    · rw [if_pos up] at waited
      exact .inr ⟨_, waited, Nat.le_add_right _ _, Nat.le_refl _⟩
    · rw [if_neg up] at waited
      exact .inl ⟨waited, Nat.not_le.1 up⟩

/-- A reader whose `start` is not past the end of the log is told no messages exactly if `start` is
the end and nothing is appended within `timeout`. -/
theorem isEmpty_iff (timely : ToldInTime channel key start timeout before after told)
    (inside : start ≤ (sent channel before).length) {d : Delivery (String × κ)} (member : d ∈ told) :
    d.slice.isEmpty = true ↔
      start = (sent channel before).length ∧ ¬ AppendsWithin channel timeout after := by
  -- A reader before the end is told at once, and what it is told is not empty.
  by_cases past : start < (sent channel before).length
  · rw [timely.at_once past, List.mem_singleton] at member
    simp only [member, Slice.isEmpty_ofLog]
    omega
  rw [Nat.not_lt] at past
  have at_end : start = (sent channel before).length := Nat.le_antisymm inside past
  by_cases appends : AppendsWithin channel timeout after
  · obtain ⟨earlier, message, later, split, silent, within⟩ := appends.first
    rw [timely.woken past earlier message later split silent within] at member
    obtain ⟨_, rfl⟩ := by simpa using member
    simp [Slice.isEmpty_ofLog, appends]
    omega
  · rw [timely.waited_out past appends] at member
    obtain ⟨_, rfl⟩ := by simpa using member
    simp [Slice.isEmpty_ofLog, appends, at_end]

/-- A reader whose `start` is past the end of the log and that is woken is told no messages exactly
if the log has not grown past `start` at its turn. -/
theorem isEmpty_iff_of_woken (timely : ToldInTime channel key start timeout before after told)
    (beyond : (sent channel before).length < start) {earlier later : List (Event κ)} {message : Json}
    (split : after = earlier ++ .append channel message :: later)
    (silent : sent channel earlier = []) (within : elapsed earlier < timeout)
    {d : Delivery (String × κ)} (member : d ∈ told) :
    d.slice.isEmpty = true ↔ (sent channel before).length + 1 +
      (sent channel (later.takeWhile fun e => !e.isTurnOf (channel, key))).length ≤ start := by
  rw [timely.woken (Nat.le_of_lt beyond) earlier message later split silent within] at member
  obtain ⟨_, rfl⟩ := by simpa using member
  simp only [Slice.isEmpty_ofLog, List.length_append, List.length_cons]
  omega

end ToldInTime

/-- The clock shows the time that has elapsed in `events`. -/
theorem now_run (events : List (Event κ)) :
    ((empty : Timeline (String × κ)).run events).1.now = elapsed events := by
  obtain ⟨_, board, _⟩ := placed_empty.run events
  have now := (empty : Timeline (String × κ)).board.now_run events
  rw [← board] at now
  exact now.trans (Nat.zero_add _)

/-- The log of `channel` holds what was `sent` to it, whoever has read it. -/
theorem toList_logOf_run (events : List (Event κ)) (channel : String) :
    (((empty : Timeline (String × κ)).run events).1.registry.logOf channel).toList =
      sent channel events := by
  obtain ⟨_, board, _⟩ := placed_empty.run events
  have log := (empty : Timeline (String × κ)).board.toList_log_run events channel
  rw [← board] at log
  exact log

/-- An append wakes those that wait on `channel`, in order, and no others. -/
theorem wakes_append (events : List (Event κ)) (channel : String) (message : Json) :
    (((empty : Timeline (String × κ)).run events).1.append channel message).1.waits =
        ((empty : Timeline (String × κ)).run events).1.waits.filter (·.key.1 ≠ channel) ∧
      (((empty : Timeline (String × κ)).run events).1.append channel message).1.woken =
        ((empty : Timeline (String × κ)).run events).1.woken ++
          ((empty : Timeline (String × κ)).run events).1.waits.filter (·.key.1 = channel) := by
  obtain ⟨placed, board, _⟩ := placed_empty.run events
  have keyed := keyed_board_empty.run events
  rw [← board] at keyed
  generalize ((empty : Timeline (String × κ)).run events).1 = t at placed keyed
  obtain ⟨entered, same⟩ := placed.enter channel
  rw [← same] at keyed
  -- A reader that waits on the log of this name was entered under the name.
  have here : ∀ w ∈ t.waits,
      (w.id == (t.registry.enter channel).2) = decide (w.key.1 = channel) := by
    intro w member
    have named : w.key.1 = ((t.registry.enter channel).1.standing w).channel :=
      keyed.waits _ (List.mem_map_of_mem member)
    rw [named]
    exact Bool.eq_iff_iff.2 (beq_iff_eq.trans
      (((entered.waits w member).id_eq_iff (Registry.find?_enter t.registry channel)).trans
        decide_eq_true_iff.symm))
  constructor
  · refine List.filter_congr fun w member => ?_
    exact (congrArg Bool.not (here w member)).trans decide_not.symm
  · exact congrArg (t.woken ++ ·) (List.filter_congr here)

/-- A reader that is not dropped in `after` is told what `ToldInTime` says. -/
theorem toldInTime {channel : String} {key : κ} {timeout : Nat} (long : 0 < timeout)
    {before after : List (Event κ)}
    (once : ∀ start timeout, .receive channel key start timeout ∉ before ++ after)
    (stays : .drop channel key ∉ after) (start : Nat) :
    ToldInTime channel key start timeout before after
      (toldTo (channel, key) ((empty : Timeline (String × κ)).run
        (before ++ .receive channel key start timeout :: after)).2) := by
  simp only [List.mem_append, not_or] at once
  -- Boards are told what timelines are told, and on a board the reader is there alone.
  obtain ⟨_, _, record⟩ := placed_empty.run
    (before ++ Event.receive channel key start timeout :: after)
  have absent : (empty : Timeline (String × κ)).board.Stage (channel, key) [] [] := ⟨rfl, rfl⟩
  obtain ⟨gone, nothing⟩ := absent.run_gone fun f T => (once f T).1
  have log := (empty : Timeline (String × κ)).board.toList_log_run before channel
  have now := (empty : Timeline (String × κ)).board.now_run before
  rw [record, Board.run_append, toldTo_append, nothing, Board.toldTo_run_cons, List.nil_append]
  generalize ((empty : Timeline (String × κ)).board.run before).1 = b at gone log now
  replace log : (b.log channel).toList = sent channel before := log
  replace now : b.now = elapsed before := now.trans (Nat.zero_add _)
  have length : (b.log channel).seq = (sent channel before).length := by
    rw [← log, Log.length_toList]
  refine ⟨fun past => ?_, fun past => ?_, fun past => ?_⟩
  · obtain ⟨left, told⟩ := gone.step_receive_of_lt (length ▸ past) timeout
    rw [told, (left.run_gone fun f T => (once f T).2).2, ← log, ← now]
    rfl
  all_goals
    -- Nothing lies past its position, so it waits from now on.
    let reader : Standing (String × κ) :=
      ⟨(channel, key), channel, (b.log channel).subscribe start, b.now + timeout⟩
    obtain ⟨waits, told⟩ := gone.step_receive_of_le (length ▸ past) long
    have waits : Board.Stage _ reader.key [reader] [] := waits
    have log' := b.toList_log_run [.receive channel key start timeout] channel
    have now' := b.now_run [.receive channel key start timeout]
    simp only [Board.run, sent, elapsed, List.append_nil, Nat.add_zero] at log' now'
  · rintro earlier message later rfl silent within
    rw [told, List.nil_append]
    refine (waits.told_of_append (fun f T => (once f T).2) stays silent ?_).trans ?_
    · show _ < b.now + timeout
      omega
    · rw [log', now', log, ← now]
      rfl
  · intro silence
    rw [told, List.nil_append]
    refine (waits.told_of_silence (fun f T => (once f T).2) stays long ?_ silence).trans ?_
    · rw [now']
    · rw [log', log, ← now]
      rfl

/-- **Readers are told in time.** Let a reader of `channel` begin with `start` and `timeout` after
the events `before`, and let it not be dropped in `after`. What it is `told` is `ToldInTime`: at
once what lies past `start`, or when the first message comes, or when the time is up; that is
between `began` and `began + timeout`, and it happens once if `after` takes that long. An append
wakes all who wait on its channel, and a reader takes nothing from the log. If `start ≤ L`, the
answer is empty exactly when `start = L` and nothing is appended within `timeout`; if `L < start`,
a reader that is woken by the next append is told no messages, and `L + 1` as the new end. -/
theorem readers_told_in_time {channel : String} {key : κ} {timeout : Nat} (long : 0 < timeout)
    {before after : List (Event κ)}
    (once : ∀ start timeout, .receive channel key start timeout ∉ before ++ after)
    (stays : .drop channel key ∉ after) (start : Nat) :
    let t : Timeline (String × κ) := empty
    let L := (sent channel before).length
    let began := elapsed before
    let told := toldTo (channel, key)
      (t.run (before ++ .receive channel key start timeout :: after)).2
    ToldInTime channel key start timeout before after told ∧
      (∀ d ∈ told, began ≤ d.time ∧ d.time ≤ began + timeout) ∧
      (timeout ≤ elapsed after → told.length = 1) ∧
      (∀ message,
        ((t.run before).1.append channel message).1.waits =
          (t.run before).1.waits.filter (·.key.1 ≠ channel) ∧
        ((t.run before).1.append channel message).1.woken =
          (t.run before).1.woken ++ (t.run before).1.waits.filter (·.key.1 = channel)) ∧
      ((t.run before).1.registry.logOf channel).toList = sent channel before ∧
      (start ≤ L → ∀ d ∈ told,
        (d.slice.isEmpty = true ↔ start = L ∧ ¬ AppendsWithin channel timeout after)) ∧
      (L < start → ∀ message, toldTo (channel, key) (t.run (before ++
        [.receive channel key start timeout, .append channel message, .resume channel key])).2 =
          [⟨(channel, key), ⟨[], L + 1⟩, began, began + timeout⟩]) := by
  intro t L began told
  have timely := toldInTime long once stays start
  refine ⟨timely, fun d member => ?_, fun up => ?_, wakes_append before channel,
    toList_logOf_run before channel, fun inside d member => timely.isEmpty_iff inside member,
    fun beyond message => ?_⟩
  · rcases timely.told_once with ⟨nothing, _⟩ | ⟨d', one, bounds⟩
    · exact absurd (nothing.subst (motive := (d ∈ ·)) member) List.not_mem_nil
    · rw [List.mem_singleton.1 (one.subst (motive := (d ∈ ·)) member)]
      exact bounds
  · rcases timely.told_once with ⟨_, short⟩ | ⟨d', one, _⟩
    · exact absurd up (Nat.not_le.2 short)
    · exact congrArg List.length one
  -- Its position is still beyond the end when the first message comes.
  · have fresh : ∀ f T, .receive channel key f T ∉
        before ++ [Event.append channel message, .resume channel key] :=
      fun f T member => once f T (List.mem_append_left _ (by simpa using member))
    have vain := (toldInTime long fresh (by simp) start).woken
      (Nat.le_of_lt beyond) [] message [.resume channel key] rfl rfl long
    have enough : (sent channel before).length + 1 ≤ start := beyond
    rw [vain]
    simpa [Event.isTurnOf, Slice.ofLog, elapsed, sent, L, began] using enough

/-- The case of `readers_told_in_time` with `start` at the end of the log: the reader is woken by
the message that comes before its deadline. -/
theorem readers_told_in_time_at_end :
    toldTo ("c", 0) ((empty : Timeline (String × Nat)).run
        ([.append "c" .null] ++ .receive "c" 0 1 10 ::
          [.pass 4, .append "c" (.bool true), .pass 6])).2 =
      [⟨("c", 0), Slice.ofLog [.null, .bool true] 1, 4, 10⟩] := by
  have once : ∀ start timeout, Event.receive "c" 0 start timeout ∉
      [.append "c" .null] ++ [.pass 4, .append "c" (.bool true), .pass 6] := by simp
  have long : 0 < 10 := by decide
  have timely := (readers_told_in_time long once (by simp) 1).1
  exact timely.woken (Nat.le_refl 1) [.pass 4] (.bool true) [.pass 6] rfl rfl (by decide)

/-- An answer need not be empty when no append came within `timeout`: a reader that begins before
the end of the log is told its messages all the same. Nor need it be full when one came before the
deadline, if appends in `before` count: a reader that begins at the end of the log is told none. -/
theorem isEmpty_iff_no_append_false :
    (¬ ∀ (channel : String) (key start timeout : Nat) (before after : List (Event Nat)),
      0 < timeout → (∀ f T, .receive channel key f T ∉ before ++ after) →
      .drop channel key ∉ after → start ≤ (sent channel before).length →
      ∀ d ∈ toldTo (channel, key) ((empty : Timeline (String × Nat)).run
          (before ++ .receive channel key start timeout :: after)).2,
        (d.slice.isEmpty = true ↔ ¬ AppendsWithin channel timeout after)) ∧
    ¬ ∀ (channel : String) (key start timeout : Nat) (before after : List (Event Nat)),
      0 < timeout → (∀ f T, .receive channel key f T ∉ before ++ after) →
      .drop channel key ∉ after → start ≤ (sent channel before).length →
      ∀ d ∈ toldTo (channel, key) ((empty : Timeline (String × Nat)).run
          (before ++ .receive channel key start timeout :: after)).2,
        (d.slice.isEmpty = true ↔
          ¬ AppendsWithin channel (elapsed before + timeout) (before ++ after)) := by
  have long : 0 < 10 := by decide
  constructor
  · intro claimed
    -- A message that was there before makes the first reading false.
    have once : ∀ f T, Event.receive "c" 0 f T ∉ [.append "c" (.string "m")] ++ [] := by simp
    have nothing : ¬ AppendsWithin "c" 10 ([] : List (Event Nat)) := by simp [AppendsWithin]
    have told := (toldInTime long once (by simp) 0).at_once (by decide)
    have law := claimed "c" 0 0 10 [.append "c" (.string "m")] [] long once (by simp) (by decide)
    rw [told] at law
    exact nomatch (law _ List.mem_cons_self).2 nothing
  · intro claimed
    -- At the end of the log, an append before the receive makes the second reading false.
    have once : ∀ f T, Event.receive "c" 0 f T ∉
      [.append "c" (.string "m")] ++ [.pass 10] := by simp
    have nothing : ¬ AppendsWithin "c" 10 [(.pass 10 : Event Nat)] := by
      rintro ⟨earlier, message, later, split, _⟩
      have member : (.append "c" message : Event Nat) ∈ [.pass 10] := by simp [split]
      simp at member
    have told := (toldInTime long once (by simp) 1).waited_out (by decide) nothing
    have law := claimed "c" 0 1 10 [.append "c" (.string "m")] [.pass 10] long once (by simp)
      (by decide)
    rw [told, if_pos (by decide)] at law
    refine (law _ List.mem_cons_self).1 rfl ⟨[], .string "m", [.pass 10], rfl, by decide⟩

end Timeline

end StateChannel
