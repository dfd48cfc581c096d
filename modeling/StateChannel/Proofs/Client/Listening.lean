import StateChannel.Client.Listening
import StateChannel.Proofs.Bytes.Codecs
import StateChannel.Proofs.Relay.Polling

/-!
# A receive loop hands over every payload once

While others call, polls fail and the loop is told to stop, the handler is given the payloads of one
stretch of the log, in order: from where the loop began to the number that the loop has.

## Main definitions

* `payloadsBetween`: the payloads in a stretch of messages
* `Interleaving.Reads`: a call for what lies past a position, answered or not
* `Listening.Follows`: how a loop stands to the log of its channel

## Main results

* `Listening.follows_step`, `Listening.follows_run`: whatever happens, the loop keeps to the log
* `Listening.hands_over_once`: what the handler was given, and what failures and stops leave alone
-/

namespace StateChannel

/-! ### Stretches of messages -/

/-- The payloads among `messages` from the place `first` up to `last`. -/
def payloadsBetween (messages : List Json) (first last : Nat) : List Bytes :=
  payloads ((messages.take last).drop first)

section Stretches

variable {messages log : List Json} {first middle last : Nat}

theorem payloadsBetween_self (messages : List Json) (place : Nat) :
    payloadsBetween messages place place = [] := by
  rw [payloadsBetween, List.drop_eq_nil_of_le (List.length_take_le _ _)]
  rfl

theorem payloadsBetween_append (before : first ≤ middle) (after : middle ≤ last) :
    payloadsBetween messages first middle ++ payloadsBetween messages middle last =
      payloadsBetween messages first last := by
  have joined : (messages.take middle).drop first ++ (messages.take last).drop middle =
      (messages.take last).drop first := by
    apply List.ext_getElem?
    intro place
    simp only [List.getElem?_append, List.getElem?_drop, List.getElem?_take, List.length_drop,
      List.length_take]
    grind
  rw [payloadsBetween, payloadsBetween, ← payloads_append, joined, payloadsBetween]

/-- `payloadsBetween` up to a `last` within `log` does not change as `log` grows to `messages`. -/
theorem payloadsBetween_of_grown (begins : log <+: messages) (inside : last ≤ log.length) :
    payloadsBetween messages first last = payloadsBetween log first last := by
  obtain ⟨rest, rfl⟩ := begins
  rw [payloadsBetween, List.take_append_of_le_length inside, payloadsBetween]

theorem payloadsBetween_length (log : List Json) (first : Nat) :
    payloadsBetween log first log.length = payloads (log.drop first) := by
  rw [payloadsBetween, List.take_length]

/-- The `payload` of the message at `place` stands between those before `place` and those after
it. -/
theorem payloadsBetween_eq_append {place : Nat} {message : Json} {payload : Bytes}
    (found : messages[place]? = some message) (carries : payload? message = some payload)
    (before : first ≤ place) (after : place < last) :
    payloadsBetween messages first last =
      payloadsBetween messages first place ++
        payload :: payloadsBetween messages (place + 1) last := by
  -- The message at `place` is a stretch of its own, between those before it and those after it.
  have alone : payloadsBetween messages place (place + 1) = [payload] := by
    have inside := (List.getElem?_eq_some_iff.1 found).1
    have reaches : (messages.take place).length = place :=
      List.length_take_of_le (Nat.le_of_lt inside)
    rw [payloadsBetween, List.take_add_one, found, List.drop_left' reaches]
    simp [payloads, carries]
  calc payloadsBetween messages first last
      = payloadsBetween messages first place ++ payloadsBetween messages place last :=
        (payloadsBetween_append before (Nat.le_of_lt after)).symm
    _ = payloadsBetween messages first place ++
          (payloadsBetween messages place (place + 1) ++
            payloadsBetween messages (place + 1) last) := by
        rw [payloadsBetween_append (Nat.le_succ place) after]
    _ = _ := by rw [alone]; rfl

end Stretches

/-! ### The loop by itself -/

/-- The payloads that are still to be handed over in this phase. -/
def LoopPhase.pending : LoopPhase → List Bytes
  | .handling rest => rest
  | _ => []

theorem LoopPhase.pending_eq_nil {phase : LoopPhase} (none : ∀ rest, phase ≠ .handling rest) :
    phase.pending = [] := by
  unfold pending
  split
  · exact absurd rfl (none _)
  · rfl

namespace ReceiveLoop

@[simp]
theorem pending_nextPhase (isStopping : Bool) (rest : List Bytes) :
    (nextPhase isStopping rest).pending = rest := by
  cases rest with
  | nil => cases isStopping <;> rfl
  | cons payload rest => rfl

/-- An `event` that is no answer changes neither the channel nor what has been and what will be
delivered. -/
theorem step_of_not_answered (l : ReceiveLoop) {event : LoopEvent}
    (other : ∀ slice, event ≠ .answered slice) :
    (l.step event).channel = l.channel ∧
      (l.step event).delivered ++ (l.step event).phase.pending =
        l.delivered ++ l.phase.pending := by
  unfold step
  split
  · exact absurd rfl (other _)
  · next cause polling => simp [polling, LoopPhase.pending]
  · next payload rest handling =>
    rw [handling, pending_nextPhase]
    simp [LoopPhase.pending]
  all_goals simp_all [LoopPhase.pending]

theorem step_stopped (l : ReceiveLoop) :
    (l.step .stopped).channel = l.channel ∧ (l.step .stopped).delivered = l.delivered := by
  unfold step
  split <;> simp_all

theorem step_answered {l : ReceiveLoop} (polling : l.phase = .polling) (slice : Slice) :
    (l.step (.answered slice)).channel = ⟨l.channel.channel, slice.seq⟩ ∧
      (l.step (.answered slice)).delivered = l.delivered ∧
      (l.step (.answered slice)).phase.pending = payloads slice.messages := by
  simp [step, polling, PayloadChannel.take]

end ReceiveLoop

/-! ### The relay by itself -/

namespace Interleaving

variable {s : Interleaving} {index : Nat} {channel : String} {position : Nat}

/-- The call at `index` is a `.receive` past `position`, and if it is answered, then from a `log`
that the messages begin with and that reaches as far as `position`. -/
def Reads (s : Interleaving) (index : Nat) (channel : String) (position : Nat) : Prop :=
  ∃ start stage, s.calls[index]? = some ⟨.receive channel start, stage⟩ ∧ start.toNat = position ∧
    ∀ outcome, stage = .answered outcome → ∃ log, log <+: s.messages channel ∧
      position ≤ log.length ∧ outcome = .received (Slice.ofLog log position)

theorem reads_begin (s : Interleaving) (channel : String) (start : UInt64) :
    (s.move (.begin (.receive channel start))).Reads s.calls.length channel start.toNat :=
  ⟨start, .naming, List.getElem?_concat_length, rfl, fun _ answered => nomatch answered⟩

theorem reads_move (sound : s.Sound) (inside : position ≤ (s.messages channel).length)
    (reads : s.Reads index channel position) (move : Move) :
    (s.move move).Reads index channel position := by
  obtain ⟨start, stage, found, rfl, told⟩ := reads
  have after := getElem?_move found move
  refine ⟨start, _, after, rfl, fun outcome answered => ?_⟩
  rw [answered] at after
  have now := outcome?_eq_some_iff.2 ⟨_, after⟩
  cases earlier : s.outcome? index with
  | some given =>
    -- The answer was there before the move.
    obtain ⟨call, held⟩ := outcome?_eq_some_iff.1 earlier
    obtain ⟨-, rfl⟩ := Pending.mk.inj (Option.some.inj (found.symm.trans held))
    obtain ⟨log, begins, reaches, rfl⟩ := told given rfl
    rw [outcome?_move_of_some earlier] at now
    exact ⟨log, begins.trans (messages_grow_run sound [move] channel), reaches,
      (Option.some.inj now).symm⟩
  | none =>
    exact ⟨_, messages_grow_run sound [move] channel, inside,
      (outcome_of_move sound found earlier now).2⟩

/-- The number that `.getSeq` is answered with lies within the log of `channel`. -/
theorem seq_le_of_answered {moves : List Move} {seq : Nat}
    (answered : (start.run moves).calls[index]? =
      some ⟨.getSeq channel, .answered (.seq ⟨seq⟩)⟩) :
    seq ≤ ((start.run moves).messages channel).length := by
  obtain ⟨before, after, rfl, told⟩ := exists_answering sound_start rfl answered
  obtain rfl := SeqAnswer.mk.inj (Outcome.seq.inj told)
  rw [run_append]
  exact (messages_grow_run (sound_run sound_start before) _ channel).length_le

end Interleaving

/-! ### The loop at the relay -/

namespace Listening

variable {s : Listening} {channel : String} {first : Nat}

/-- The loop of `s` began at the place `first` of `channel`. Its number lies between `first` and
the end of the log; what it has delivered and what is pending are the payloads in between; and a
call that it waits for `Reads` past its number. -/
structure Follows (s : Listening) (channel : String) (first : Nat) : Prop where
  sound : s.relay.Sound
  named : s.loop.channel.channel = channel
  begun : first ≤ s.loop.channel.seq
  inside : s.loop.channel.seq ≤ (s.relay.messages channel).length
  handed : s.loop.delivered ++ s.loop.phase.pending =
    payloadsBetween (s.relay.messages channel) first s.loop.channel.seq
  asked : ∀ index ∈ s.asked,
    s.loop.phase = .polling ∧ s.relay.Reads index channel s.loop.channel.seq

theorem follows_start {relay : Interleaving} (sound : relay.Sound)
    (inside : first ≤ (relay.messages channel).length) :
    (start relay ⟨channel, first⟩).Follows channel first where
  sound := sound
  named := rfl
  begun := Nat.le_refl first
  inside := inside
  handed := (payloadsBetween_self _ _).symm
  asked := fun _ none => nomatch none

/-- When nothing is left to be handed over, what is delivered are the payloads from `first` up to
the number of the loop. -/
theorem Follows.delivered_eq (follows : s.Follows channel first)
    (none : ∀ rest, s.loop.phase ≠ .handling rest) :
    s.loop.delivered = payloadsBetween (s.relay.messages channel) first s.loop.channel.seq := by
  rw [← follows.handed, LoopPhase.pending_eq_nil none, List.append_nil]

/-- A `move` of the calls keeps `Follows`. -/
theorem Follows.move (follows : s.Follows channel first) (move : Move) :
    Follows { s with relay := s.relay.move move } channel first where
  sound := Interleaving.sound_move follows.sound move
  named := follows.named
  begun := follows.begun
  inside := Nat.le_trans follows.inside
    (Interleaving.messages_grow_run follows.sound [move] channel).length_le
  handed := follows.handed.trans (payloadsBetween_of_grown
    (Interleaving.messages_grow_run follows.sound [move] channel) follows.inside).symm
  asked := fun index waits => ⟨(follows.asked index waits).1,
    Interleaving.reads_move follows.sound follows.inside (follows.asked index waits).2 move⟩

/-- An `event` of the loop that is no answer keeps `Follows`, if the loop still polls wherever it
waits for a call. -/
theorem Follows.step (follows : s.Follows channel first) {event : LoopEvent}
    (other : ∀ slice, event ≠ .answered slice) {asked : Option Nat}
    (waits : ∀ index ∈ asked, index ∈ s.asked ∧ (s.loop.step event).phase = .polling) :
    Follows { s with loop := s.loop.step event, asked } channel first := by
  obtain ⟨same, handed⟩ := s.loop.step_of_not_answered other
  refine ⟨follows.sound, ?_, ?_, ?_, ?_, fun index waiting => ?_⟩
  · rw [same]; exact follows.named
  · rw [same]; exact follows.begun
  · rw [same]; exact follows.inside
  · rw [handed, same]; exact follows.handed
  · rw [same]
    exact ⟨(waits index waiting).2, (follows.asked index (waits index waiting).1).2⟩

/-- The answer to the call that the loop waits for keeps `Follows`. -/
theorem Follows.answer (follows : s.Follows channel first) {index : Nat} {slice : Slice}
    (waits : index ∈ s.asked) (answered : s.relay.outcome? index = some (.received slice)) :
    Follows { s with loop := s.loop.step (.answered slice), asked := none } channel first := by
  obtain ⟨polling, start, stage, found, here, told⟩ := follows.asked index waits
  obtain ⟨call, held⟩ := Interleaving.outcome?_eq_some_iff.1 answered
  obtain ⟨rfl, rfl⟩ := Pending.mk.inj (Option.some.inj (found.symm.trans held))
  obtain ⟨log, begins, reaches, same⟩ := told _ rfl
  obtain rfl := Outcome.received.inj same
  obtain ⟨moved, kept, received⟩ := ReceiveLoop.step_answered polling
    (Slice.ofLog log s.loop.channel.seq)
  have before := follows.delivered_eq (by simp [polling])
  refine ⟨follows.sound, ?_, ?_, ?_, ?_, fun _ waiting => nomatch waiting⟩
  · rw [moved]; exact follows.named
  · rw [moved]; exact Nat.le_trans follows.begun reaches
  · rw [moved]; exact begins.length_le
  · -- What the answer tells comes right after what had been handed over.
    rw [moved, kept, received, before]
    exact (congrArg (_ ++ ·) ((payloadsBetween_of_grown begins (Nat.le_refl _)).trans
      (payloadsBetween_length log _)).symm).trans (payloadsBetween_append follows.begun reaches)

theorem Follows.ask (follows : s.Follows channel first) (begin : UInt64) :
    (s.step (.ask begin)).Follows channel first := by
  by_cases able : s.loop.phase = .polling ∧ s.asked = none ∧ begin.toNat = s.loop.channel.seq
  · obtain ⟨polling, idle, here⟩ := able
    rw [step_ask polling idle here]
    have moved := follows.move (.begin (.receive s.loop.channel.channel begin))
    refine ⟨moved.sound, moved.named, moved.begun, moved.inside, moved.handed,
      fun index waiting => ?_⟩
    obtain rfl := Option.some.inj waiting
    refine ⟨polling, ?_⟩
    rw [← here, ← follows.named]
    exact Interleaving.reads_begin s.relay _ begin
  · rwa [Listening.step, if_neg able]

/-- Any `event` keeps `Follows`. -/
theorem follows_step (follows : s.Follows channel first) (event : Event) :
    (s.step event).Follows channel first := by
  cases event with
  | calls move => exact follows.move move
  | ask begin => exact follows.ask begin
  | answer =>
    cases told : s.asked.bind s.relay.outcome? with
    | none => simpa only [step, told] using follows
    | some outcome =>
      obtain ⟨index, waits, answered⟩ := Option.bind_eq_some_iff.1 told
      cases outcome with
      | received slice => simpa only [step, told] using follows.answer waits answered
      | sent | seq => simpa only [step, told] using follows
  | fail cause =>
    exact follows.step (by simp) fun index waits => absurd waits (Option.not_mem_none index)
  | stop =>
    exact follows.step (by simp) fun index waits => absurd waits (Option.not_mem_none index)
  -- While the loop waits for an answer it polls, and nothing is handed over or resumed.
  | handled =>
    refine follows.step (by simp) fun index waits => ⟨waits, ?_⟩
    simp [ReceiveLoop.step, (follows.asked index waits).1]
  | resumed =>
    refine follows.step (by simp) fun index waits => ⟨waits, ?_⟩
    simp [ReceiveLoop.step, (follows.asked index waits).1]

theorem follows_run (follows : s.Follows channel first) (events : List Event) :
    (s.run events).Follows channel first := by
  induction events generalizing s with
  | nil => exact follows
  | cons event events ih => exact ih (follows_step follows event)

theorem run_calls (s : Listening) (moves : List Move) :
    s.run (moves.map .calls) = { s with relay := s.relay.run moves } := by
  induction moves generalizing s with
  | nil => rfl
  | cons move moves ih => exact ih _

/-- After a failure and any `moves` of the calls, `.resumed` brings the loop back to polling from
where it was. -/
theorem loop_retry (polling : s.loop.phase = .polling) (cause : ClientError) (moves : List Move) :
    (((s.step (.fail cause)).run (moves.map .calls)).step .resumed).loop = s.loop := by
  rw [run_calls]
  obtain ⟨relay, ⟨channel, delivered, phase, isStopping⟩, asked⟩ := s
  obtain rfl : phase = .polling := polling
  rfl

/-- **What listens is told once.** A loop begins at the number `first` that the relay tells for
`channel`, and any `events` follow: calls of any kind in any order, polls that fail or are answered
without a message, and the end of the loop. Its number lies between `first` and the end of the log.
Whenever it is not handing over, what is `delivered` are the payloads of the log from `first` up to
its number, in order, and so the `payload` that was sent at any `place` in between stands there
once and unchanged. A `.fail` or a `.stop` changes neither the number nor what is `delivered`, and
after a failure the loop polls `again` from the same number. -/
theorem hands_over_once {before : List Move} {index : Nat} {channel : String} {first : Nat}
    (told : (Interleaving.start.run before).calls[index]? =
      some ⟨.getSeq channel, .answered (.seq ⟨first⟩)⟩)
    (events : List Event) {s : Listening}
    (reached : s = (start (Interleaving.start.run before) ⟨channel, first⟩).run events) :
    first ≤ s.loop.channel.seq ∧ s.loop.channel.seq ≤ (s.relay.messages channel).length ∧
    ((∀ rest, s.loop.phase ≠ .handling rest) →
      s.loop.delivered =
        payloadsBetween (s.relay.messages channel) first s.loop.channel.seq ∧
      ∀ place payload, first ≤ place → place < s.loop.channel.seq →
        (s.relay.messages channel)[place]? = some (.string (Base64.encode payload)) →
        s.loop.delivered = payloadsBetween (s.relay.messages channel) first place ++
          payload :: payloadsBetween (s.relay.messages channel) (place + 1) s.loop.channel.seq) ∧
    (∀ event, (∃ cause, event = .fail cause) ∨ event = .stop →
      (s.step event).loop.channel = s.loop.channel ∧
        (s.step event).loop.delivered = s.loop.delivered) ∧
    (s.loop.phase = .polling → ∀ (cause : ClientError) (moves : List Move) (again : Listening),
      again = ((s.step (.fail cause)).run (moves.map .calls)).step .resumed →
      again.loop = s.loop ∧ ∀ begin : UInt64, begin.toNat = s.loop.channel.seq →
        (again.step (.ask begin)).relay = again.relay.move (.begin (.receive channel begin))) := by
  have follows : s.Follows channel first := by
    rw [reached]
    exact follows_run (follows_start (Interleaving.sound_run Interleaving.sound_start before)
      (Interleaving.seq_le_of_answered told)) events
  refine ⟨follows.begun, follows.inside, fun none => ⟨follows.delivered_eq none, ?_⟩, ?_, ?_⟩
  · intro place payload later earlier found
    rw [follows.delivered_eq none]
    exact payloadsBetween_eq_append found (Base64.decode?_encode payload) later earlier
  · rintro event (⟨cause, rfl⟩ | rfl)
    · exact s.loop.step_failed cause
    · exact s.loop.step_stopped
  · -- A failure and a retry leave the loop as it was, so it asks for the same place again.
    rintro polling cause moves again rfl
    have same := loop_retry polling cause moves
    refine ⟨same, fun begin here => ?_⟩
    rw [step_ask (by rw [same]; exact polling) ?_ (by rw [same]; exact here), same, follows.named]
    rw [run_calls]
    rfl

/-- A `.getSeq` on a new channel, with the steps up to its answer. -/
def asking : List Move := [.begin (.getSeq "a"), .advance 0, .advance 0, .advance 0]

/-- A poll fails, the next one is answered with something that is no payload and with a payload,
and the loop is told to stop while it hands this over. -/
def visit : List Event :=
  [.fail (.http none), .resumed, .ask 0, .calls (.begin (.send "a" .null)),
    .calls (.begin (.send "a" (.string "AQ=="))), .calls (.advance 2), .calls (.advance 2),
    .calls (.advance 3), .calls (.advance 3), .calls (.advance 1), .calls (.advance 1),
    .calls (.advance 1), .answer, .stop, .handled]

theorem hands_over_once_visit :
    let s := (start (Interleaving.start.run asking) ⟨"a", 0⟩).run visit
    s.loop.phase = .ended ∧ s.loop.channel.seq = 2 ∧
      s.loop.delivered = payloadsBetween (s.relay.messages "a") 0 1 ++
        [1] :: payloadsBetween (s.relay.messages "a") 2 s.loop.channel.seq :=
  ⟨rfl, rfl, ((@hands_over_once asking 0 "a" 0 rfl visit _ rfl).2.2.1
    (fun _ same => LoopPhase.noConfusion same)).2 1 [1] (Nat.zero_le 1) (Nat.le_refl 2) rfl⟩

end Listening

end StateChannel
