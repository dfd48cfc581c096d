import StateChannel.Proofs.Relay.Linearization

/-!
# One poll after the other

A reader that wants to see all of a channel asks for the messages past a position, and then again
and again for those past the number that the last answer gave. Whatever others do in between, each
answer goes on where the one before it ended, so that the answers together are one stretch of the
log. Only the first position is the reader's own choice: if it lies beyond the end of the log, then
the messages before it are passed over that were there when the first answer was read.

## Main definitions

* `Interleaving.messages`: the messages of a channel
* `Poll`, `Poll.Tells`: a call that was answered, and the messages that it tells
* `Poll.TellOnce`: one poll tells a message, and no other does
* `Poll.reached`: how far a reader has come
* `Interleaving.Polls`: polls one after the other, among the moves of all calls

## Main results

* `Interleaving.exists_reading`: an answer is read off the log at one moment of its call
* `Interleaving.Polls.flatMap_messages`, `Interleaving.Polls.tellOnce`: from a position inside the
  log on, nothing is left out and nothing is told twice
* `Interleaving.polls_tell_once`: the same from any position, with what is passed over
* `Interleaving.polls_beyond_end`: a message that is appended while a reader waits beyond the end
  is never told
-/

namespace StateChannel

/-- What `Slice.ofLog log start` tells, and behind it what `whole` has from the end of `log` up to
`last`, is what `whole` has from `start` up to `last`; a `start` beyond the end of `log` counts as
the end. -/
theorem Slice.messages_append_of_grown {log whole : List Json} (begins : log <+: whole)
    {last : Nat} (later : log.length ≤ last) (start : Nat) :
    (Slice.ofLog log start).messages ++ (whole.take last).drop log.length =
      (whole.take last).drop (min start log.length) := by
  obtain ⟨rest, rfl⟩ := begins
  obtain ⟨more, rfl⟩ := Nat.exists_eq_add_of_le later
  rw [List.take_length_add_append, List.drop_append_length,
    List.drop_append_of_le_length (Nat.min_le_right _ _)]
  rcases Nat.le_total start log.length with inside | beyond
  · rw [Nat.min_eq_left inside, Slice.ofLog]
  · rw [Nat.min_eq_right beyond, List.drop_length, Slice.messages_ofLog_of_le beyond]

/-- A `receive` from the position `asked`, and the slice that it was answered with. -/
structure Poll where
  start : UInt64
  slice : Slice
  deriving Repr

namespace Poll

/-- The slice of `poll` tells `message` as the one at `place` of the log. -/
def Tells (poll : Poll) (place : Nat) (message : Json) : Prop :=
  poll.start.toNat ≤ place ∧ poll.slice.messages[place - poll.start.toNat]? = some message

/-- How far a reader has come that began at `position`: the end that the last of its polls told, if
there was any. -/
def reached (position : Nat) : List Poll → Nat
  | [] => position
  | poll :: polls => reached poll.slice.seq polls

/-- A slice of `log` tells `message` at `place` exactly when `place` is not before `start` and
`log` has `message` there. -/
theorem tells_ofLog_iff {start : UInt64} {log : List Json} {place : Nat} {message : Json} :
    Tells ⟨start, Slice.ofLog log start.toNat⟩ place message ↔
      start.toNat ≤ place ∧ log[place]? = some message := by
  unfold Tells
  refine and_congr_right fun inside => ?_
  simp only [Slice.ofLog, List.getElem?_drop, Nat.add_sub_cancel' inside]

/-- One of `polls` tells `message` at `place`, and no other does. -/
def TellOnce (polls : List Poll) (place : Nat) (message : Json) : Prop :=
  ∃! index : Nat, ∃ poll, polls[index]? = some poll ∧ poll.Tells place message

theorem TellOnce.head {poll : Poll} {polls : List Poll} {place : Nat} {message : Json}
    (told : poll.Tells place message) (others : ∀ other ∈ polls, ¬ other.Tells place message) :
    TellOnce (poll :: polls) place message := by
  refine ⟨0, ⟨poll, rfl, told⟩, ?_⟩
  rintro (_ | index) ⟨other, found, again⟩
  · rfl
  · exact absurd again (others other (List.mem_of_getElem? found))

theorem TellOnce.tail {poll : Poll} {polls : List Poll} {place : Nat} {message : Json}
    (silent : ¬ poll.Tells place message) (once : TellOnce polls place message) :
    TellOnce (poll :: polls) place message := by
  obtain ⟨index, told, only⟩ := once
  refine ⟨index + 1, told, ?_⟩
  rintro (_ | other) ⟨teller, found, again⟩
  · obtain rfl := Option.some.inj found
    exact absurd again silent
  · rw [only other ⟨teller, found, again⟩]

/-- If a poll is answered from `log`, and `polls` go on from the end of `log`, then they `TellOnce`
together what the poll tells, and what `polls` tell once. -/
theorem TellOnce.of_log {start : UInt64} {log : List Json} {polls : List Poll} {place : Nat}
    {message : Json} (asked : start.toNat ≤ place ∨ log.length ≤ place)
    (held : ∀ early : place < log.length, log[place] = message)
    (onward : ∀ poll ∈ polls, poll.Tells place message → log.length ≤ place)
    (rest : log.length ≤ place → TellOnce polls place message) :
    TellOnce (⟨start, Slice.ofLog log start.toNat⟩ :: polls) place message := by
  rcases Nat.lt_or_ge place log.length with early | late
  · have begun := asked.resolve_right (Nat.not_le.2 early)
    refine .head (tells_ofLog_iff.2 ⟨begun, ?_⟩) fun poll made told => ?_
    · rw [List.getElem?_eq_getElem early, held early]
    · exact absurd (onward poll made told) (Nat.not_le.2 early)
  · refine .tail (fun told => ?_) (rest late)
    rw [tells_ofLog_iff, List.getElem?_eq_none late] at told
    exact nomatch told.2

end Poll

namespace Interleaving

variable {s : Interleaving} {channel : String}

/-- The messages in the log of `channel`. -/
def messages (s : Interleaving) (channel : String) : List Json :=
  (s.registry.logOf channel).toList

/-- The messages of `channel` stay in their places in the course of `moves`. -/
theorem messages_grow_run (sound : s.Sound) (moves : List Move) (channel : String) :
    s.messages channel <+: (s.run moves).messages channel :=
  ⟨_, (toList_run sound moves channel).symm⟩

/-- A reader polls `channel` from `position`: it begins a `.receive`, and once that has been
answered with a `slice` it goes on from `slice.seq`. In between come any other moves. -/
inductive Polls (channel : String) : Interleaving → List Move → Nat → List Poll → Prop
  | stop (s : Interleaving) (moves : List Move) (position : Nat) : Polls channel s moves position []
  | poll {s : Interleaving} {before during after : List Move} {start : UInt64} {slice : Slice}
      {polls : List Poll}
      (answered : (s.run (before ++ .begin (.receive channel start) :: during)).outcome?
        (s.run before).calls.length = some (.received slice))
      (rest : Polls channel (s.run (before ++ .begin (.receive channel start) :: during)) after
        slice.seq polls) :
      Polls channel s (before ++ .begin (.receive channel start) :: during ++ after) start.toNat
        (⟨start, slice⟩ :: polls)

/-- The `call` at `index` stays there, in some stage. -/
theorem exists_stage_run {index : Nat} {call : Call} {stage : Stage}
    (found : s.calls[index]? = some ⟨call, stage⟩) (moves : List Move) :
    ∃ later, (s.run moves).calls[index]? = some ⟨call, later⟩ := by
  induction moves generalizing s stage with
  | nil => exact ⟨stage, found⟩
  | cons move moves ih => exact ih (getElem?_move found move)

/-- A `.receive` that is answered during a run tells what its channel held after some first part
`earlier` of it. -/
theorem exists_reading (sound : s.Sound) {before during : List Move} {start : UInt64}
    {slice : Slice}
    (answered : (s.run (before ++ .begin (.receive channel start) :: during)).outcome?
      (s.run before).calls.length = some (.received slice)) :
    ∃ earlier, earlier <+: during ∧ slice = Slice.ofLog
      ((s.run (before ++ .begin (.receive channel start) :: earlier)).messages channel)
      start.toNat := by
  simp only [run_append, run_cons] at answered ⊢
  have begun := sound_move (sound_run sound before) (.begin (.receive channel start))
  -- The call is the last one that has been made, and has not taken a step.
  have new : ((s.run before).move (.begin (.receive channel start))).calls[
      (s.run before).calls.length]? = some ⟨.receive channel start, .naming⟩ :=
    List.getElem?_concat_length
  have unanswered : ((s.run before).move (.begin (.receive channel start))).outcome?
      (s.run before).calls.length = none := by
    rw [outcome?, new]
  obtain ⟨stage, stays⟩ := exists_stage_run new during
  obtain ⟨call, found⟩ := outcome?_eq_some_iff.1 answered
  obtain ⟨rfl, rfl⟩ := Pending.mk.inj (Option.some.inj (stays.symm.trans found))
  obtain ⟨earlier, later, rfl, told⟩ := exists_answering begun unanswered found
  exact ⟨earlier, List.prefix_append _ _, Outcome.received.inj told⟩

theorem messages_grow (sound : s.Sound) {early late : List Move} (earlier : early <+: late)
    (channel : String) : (s.run early).messages channel <+: (s.run late).messages channel := by
  obtain ⟨rest, rfl⟩ := earlier
  rw [run_append]
  exact messages_grow_run (sound_run sound early) rest channel

/-- A `.receive` is answered from a `log` that begins with the messages there were when it began,
and that the messages in the end begin with. -/
theorem exists_snapshot (sound : s.Sound) {before during : List Move} {start : UInt64}
    {slice : Slice}
    (answered : (s.run (before ++ .begin (.receive channel start) :: during)).outcome?
      (s.run before).calls.length = some (.received slice)) :
    ∃ log, (s.run before).messages channel <+: log ∧
      log <+: (s.run (before ++ .begin (.receive channel start) :: during)).messages channel ∧
      slice = Slice.ofLog log start.toNat := by
  obtain ⟨earlier, within, rfl⟩ := exists_reading sound answered
  exact ⟨_, messages_grow sound (List.prefix_append _ _) channel,
    messages_grow sound (by simpa using within) channel, rfl⟩

namespace Polls

variable {moves : List Move} {position : Nat} {polls : List Poll}

/-- A reader that begins inside the log comes no further than the end of the log. -/
theorem le_reached (sound : s.Sound) (course : s.Polls channel moves position polls)
    (inside : position ≤ (s.messages channel).length) :
    position ≤ Poll.reached position polls ∧
      Poll.reached position polls ≤ ((s.run moves).messages channel).length := by
  induction course with
  | stop s moves position =>
    exact ⟨Nat.le_refl _, Nat.le_trans inside (messages_grow_run sound moves channel).length_le⟩
  | @poll s before during after start slice polls answered rest ih =>
    obtain ⟨log, first, last, rfl⟩ := exists_snapshot sound answered
    have opened := (messages_grow_run sound before channel).length_le
    obtain ⟨onward, ended⟩ := ih (sound_run sound _) last.length_le
    rw [← run_append] at ended
    exact ⟨Nat.le_trans inside (Nat.le_trans opened (Nat.le_trans first.length_le onward)), ended⟩

/-- The slices that a reader from `position` is told, put together, are what the log has from
`position` up to where the reader has come. -/
theorem flatMap_messages (sound : s.Sound) (course : s.Polls channel moves position polls)
    (inside : position ≤ (s.messages channel).length) :
    polls.flatMap (fun poll => poll.slice.messages) =
      (((s.run moves).messages channel).take (Poll.reached position polls)).drop position := by
  induction course with
  | stop s moves position => simp [Poll.reached]
  | @poll s before during after start slice polls answered rest ih =>
    obtain ⟨log, first, last, rfl⟩ := exists_snapshot sound answered
    have opened := (messages_grow_run sound before channel).length_le
    have begun := Nat.le_trans inside (Nat.le_trans opened first.length_le)
    have whole := last.trans (messages_grow_run (sound_run sound _) after channel)
    have onward := (rest.le_reached (sound_run sound _) last.length_le).1
    have joined := Slice.messages_append_of_grown whole onward start.toNat
    rw [Nat.min_eq_left begun] at joined
    rw [List.flatMap_cons, ih (sound_run sound _) last.length_le]
    rwa [← run_append] at joined ⊢

/-- What a poll of the reader `Tells` at `place` is what the log has there, and `place` is not
before `position`. -/
theorem le_of_tells (sound : s.Sound) (course : s.Polls channel moves position polls)
    (inside : position ≤ (s.messages channel).length) {poll : Poll} (made : poll ∈ polls)
    {place : Nat} {message : Json} (told : poll.Tells place message) :
    position ≤ place ∧ ((s.run moves).messages channel)[place]? = some message := by
  induction course with
  | stop s moves position => exact absurd made List.not_mem_nil
  | @poll s before during after start slice polls answered rest ih =>
    obtain ⟨log, first, last, rfl⟩ := exists_snapshot sound answered
    have opened := (messages_grow_run sound before channel).length_le
    have begun := Nat.le_trans inside (Nat.le_trans opened first.length_le)
    -- A message is told by this poll, off the log it read, or by a later one.
    rcases List.mem_cons.1 made with rfl | made
    · obtain ⟨later, held⟩ := Poll.tells_ofLog_iff.1 told
      have whole := last.trans (messages_grow_run (sound_run sound _) after channel)
      rw [← run_append] at whole
      obtain ⟨early, rfl⟩ := List.getElem?_eq_some_iff.1 held
      exact ⟨later, List.prefix_iff_getElem?.1 whole place early⟩
    · obtain ⟨later, held⟩ := ih (sound_run sound _) last.length_le made
      rw [← run_append] at held
      exact ⟨Nat.le_trans begun later, held⟩

/-- A reader that begins inside the log is told every `message` from `position` up to where it has
come by one of `polls` and no other. -/
theorem tellOnce (sound : s.Sound) (course : s.Polls channel moves position polls)
    (inside : position ≤ (s.messages channel).length) {place : Nat} {message : Json}
    (held : ((s.run moves).messages channel)[place]? = some message) (begun : position ≤ place)
    (come : place < Poll.reached position polls) : Poll.TellOnce polls place message := by
  induction course with
  | stop s moves position => exact absurd come (Nat.not_lt.2 begun)
  | @poll s before during after start slice polls answered rest ih =>
    obtain ⟨log, first, last, rfl⟩ := exists_snapshot sound answered
    have whole := last.trans (messages_grow_run (sound_run sound _) after channel)
    rw [run_append] at held
    refine .of_log (.inl begun) (fun early => ?_)
      (fun poll made told => (rest.le_of_tells (sound_run sound _) last.length_le made told).1)
      (fun late => ih (sound_run sound _) last.length_le held late come)
    rw [List.prefix_iff_getElem?.1 whole place early] at held
    exact Option.some.inj held

/-- Where a reader has come after some polls is the end of the log after some first part `closing`
of `moves`. -/
theorem exists_last_reading (sound : s.Sound) (course : s.Polls channel moves position polls)
    (some : polls ≠ []) :
    ∃ closing, closing <+: moves ∧
      Poll.reached position polls = ((s.run closing).messages channel).length := by
  induction course with
  | stop s moves position => exact absurd rfl some
  | @poll s before during after start slice polls answered rest ih =>
    -- If no poll follows, this one is the last. Otherwise the last is among those that follow.
    cases polls with
    | nil =>
      obtain ⟨earlier, within, rfl⟩ := exists_reading sound answered
      refine ⟨_, List.IsPrefix.trans ?_ (List.prefix_append _ after), rfl⟩
      simpa using within
    | cons next polls =>
      obtain ⟨closing, within, come⟩ := ih (sound_run sound _) (List.cons_ne_nil _ _)
      refine ⟨_, (List.prefix_append_right_inj _).2 within, ?_⟩
      rw [run_append]
      exact come

/-- If `position` is where the log ended after `opening`, then where the reader has come is the end
of the log at a moment `closing` since. -/
theorem exists_closing (sound : s.Sound) {opening begun : List Move} (earlier : opening <+: begun)
    (course : (s.run begun).Polls channel moves position polls)
    (opened : position = ((s.run opening).messages channel).length) :
    ∃ closing, opening <+: closing ∧ closing <+: begun ++ moves ∧
      Poll.reached position polls = ((s.run closing).messages channel).length := by
  cases polls with
  | nil => exact ⟨opening, List.prefix_rfl, earlier.trans (List.prefix_append _ _), opened⟩
  | cons next polls =>
    obtain ⟨closing, within, come⟩ :=
      course.exists_last_reading (sound_run sound begun) (List.cons_ne_nil _ _)
    refine ⟨begun ++ closing, earlier.trans (List.prefix_append _ _),
      (List.prefix_append_right_inj _).2 within, ?_⟩
    rw [run_append]
    exact come

end Polls

/-- **Polls tell every message once.** A reader polls `channel` from the position `asked` and goes
on from `slice.seq` with any number of `polls`, while others move in between. With `opening` for
the moment at which the first answer was read, and `closing` for that of the last one, the answers
put together are the messages at `closing` from the smaller of `asked` and `slice.seq` on. Each
`message` at `closing` is told by one poll and no other, unless it lies before `asked` and was
there at `opening`; then no poll tells it. -/
theorem polls_tell_once {before during after : List Move} {asked : UInt64} {slice : Slice}
    {polls : List Poll}
    (answered : (start.run (before ++ .begin (.receive channel asked) :: during)).outcome?
      (start.run before).calls.length = some (.received slice))
    (rest : (start.run (before ++ .begin (.receive channel asked) :: during)).Polls channel after
      slice.seq polls) :
    ∃ opening closing, before ++ [.begin (.receive channel asked)] <+: opening ∧
      opening <+: closing ∧
      closing <+: before ++ .begin (.receive channel asked) :: during ++ after ∧
      slice.seq = ((start.run opening).messages channel).length ∧
      Poll.reached slice.seq polls = ((start.run closing).messages channel).length ∧
      (⟨asked, slice⟩ :: polls : List Poll).flatMap (fun poll => poll.slice.messages) =
        ((start.run closing).messages channel).drop (min asked.toNat slice.seq) ∧
      ∀ place message, ((start.run closing).messages channel)[place]? = some message →
        if place < asked.toNat ∧ place < slice.seq then
          ∀ poll ∈ (⟨asked, slice⟩ :: polls : List Poll), ¬ poll.Tells place message
        else Poll.TellOnce (⟨asked, slice⟩ :: polls) place message := by
  obtain ⟨earlier, within, rfl⟩ := exists_reading sound_start answered
  have first : before ++ .begin (.receive channel asked) :: earlier <+:
      before ++ .begin (.receive channel asked) :: during := by simpa using within
  obtain ⟨closing, onward, ended, come⟩ := rest.exists_closing sound_start first rfl
  -- The log at the first answer starts the log at the last one, and that the log at the end.
  have opened := messages_grow sound_start first channel
  have closed := messages_grow sound_start onward channel
  have whole := messages_grow sound_start ended channel
  refine ⟨_, closing, by simp, onward, ended, rfl, come, ?_, fun place message held => ?_⟩
  · -- The polls that follow start where the first ended, so the slices join up.
    have told := rest.flatMap_messages (sound_run sound_start _) opened.length_le
    rw [← run_append, come, ← List.prefix_iff_eq_take.1 whole] at told
    have joined := Slice.messages_append_of_grown closed closed.length_le asked.toNat
    rw [List.take_length] at joined
    rw [List.flatMap_cons, told]
    exact joined
  · have inside := (List.getElem?_eq_some_iff.1 held).1
    have stays : ((start.run (before ++ .begin (.receive channel asked) :: during ++
        after)).messages channel)[place]? = some message := by
      rw [List.prefix_iff_getElem?.1 whole place inside, ← held, List.getElem?_eq_getElem inside]
    have others (poll : Poll) (made : poll ∈ polls) (told : poll.Tells place message) :=
      (rest.le_of_tells (sound_run sound_start _) opened.length_le made told).1
    split
    · next passed =>
      intro poll made told
      rcases List.mem_cons.1 made with rfl | made
      · exact absurd told.1 (Nat.not_le.2 passed.1)
      · exact absurd (others poll made told) (Nat.not_le.2 passed.2)
    · -- The place lies in the first slice, or behind it, where the other polls tell it once.
      next asks =>
      rw [not_and_or, Nat.not_lt, Nat.not_lt] at asks
      refine .of_log asks (fun early => ?_) others fun late => ?_
      · rw [List.prefix_iff_getElem?.1 closed place early] at held
        exact Option.some.inj held
      · rw [run_append] at stays
        exact rest.tellOnce (sound_run sound_start _) opened.length_le stays late (come ▸ inside)

/-- A reader waits past the end of an empty channel, and a message comes. -/
def beyondEnd : List Move :=
  [.begin (.receive "a" 5), .advance 0, .advance 0, .advance 0, .advance 0,
    .begin (.send "a" .null), .advance 1, .advance 1, .advance 1, .advance 0, .advance 0]

/-- A message that comes after the first call has begun, and before it is answered, need not be
told: in `beyondEnd` neither this call nor one that goes on from its answer tells it. -/
theorem polls_beyond_end : ¬ ∀ (before during after : List Move) (channel : String)
    (asked : UInt64) (slice : Slice) (polls : List Poll),
    (start.run (before ++ .begin (.receive channel asked) :: during)).outcome?
      (start.run before).calls.length = some (.received slice) →
    (start.run (before ++ .begin (.receive channel asked) :: during)).Polls channel after
      slice.seq polls →
    ∀ place message,
      ((start.run (before ++ .begin (.receive channel asked) :: during ++ after)).messages
        channel)[place]? = some message →
      ((start.run before).messages channel).length ≤ place →
      place < Poll.reached slice.seq polls →
      Poll.TellOnce (⟨asked, slice⟩ :: polls) place message := by
  intro always
  -- The poll asks from the place 5, and the answer has no message but the number 1.
  have once := always [] beyondEnd.tail [] "a" 5 ⟨[], 1⟩ [] rfl (.stop _ _ _) 0 .null rfl
    (Nat.le_refl 0) Nat.one_pos
  obtain ⟨_ | index, ⟨poll, made, told⟩, _⟩ := once
  · obtain rfl := Option.some.inj made
    exact nomatch told.2
  · exact nomatch made

/-- The reader of `beyondEnd` goes on from the answer, and is told what comes next. -/
def onwards : List Move :=
  [.begin (.receive "a" 1), .begin (.send "a" (.bool true)), .advance 3, .advance 3, .advance 2,
    .advance 2, .advance 2]

/-- The case of `polls_tell_once` for `onwards`: of the two messages since the first call, the
second is told once, and the first not at all. -/
theorem polls_tell_once_beyond_end :
    Poll.TellOnce [⟨5, ⟨[], 1⟩⟩, ⟨1, ⟨[.bool true], 2⟩⟩] 1 (.bool true) ∧
      ∀ poll ∈ [Poll.mk 5 ⟨[], 1⟩, ⟨1, ⟨[.bool true], 2⟩⟩], ¬ poll.Tells 0 .null := by
  have rest : (start.run beyondEnd).Polls "a" onwards 1 [⟨1, ⟨[.bool true], 2⟩⟩] :=
    @Polls.poll "a" (start.run beyondEnd) [] onwards.tail [] 1 _ _ rfl (.stop _ _ _)
  obtain ⟨_, closing, _, _, ended, _, come, _, all⟩ :=
    @polls_tell_once "a" [] beyondEnd.tail onwards 5 _ _ rfl rest
  -- At the end both messages are there.
  have whole := (messages_grow sound_start ended "a").eq_of_length come.symm
  rw [whole] at all
  exact ⟨all 1 (.bool true) rfl, all 0 .null rfl⟩

end Interleaving

end StateChannel
