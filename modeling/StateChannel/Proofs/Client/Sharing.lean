import Mathlib.Data.List.Forall2
import StateChannel.Client.Sharing
import StateChannel.Proofs.Client.Clones

/-!
# Clones at a relay lose nothing between them

What clones do at a relay is a run of `SharedChannel`: whatever steps a call takes, its answer is
read off the log at one moment, and the poll that waits for it sees nothing else of the relay. So
clones that poll side by side return all that their channel has between the number they began with
and the one they have come to.

## Main definitions

* `Sharing.view`: clones at a relay, without the relay
* `Sharing.Sound`: what the polls wait for

## Main results

* `Sharing.view_step`, `Sharing.view_run`: the clones do what `SharedChannel` does
* `Sharing.loses_nothing`: every payload up to a number that was shared has been returned
-/

namespace StateChannel

/-! ### The channel by itself -/

namespace SharedChannel

theorem run_append (s : SharedChannel) (moves later : List CloneMove) :
    s.run (moves ++ later) = (s.run moves).run later :=
  List.foldl_append

theorem run_appends (s : SharedChannel) (messages : List Json) :
    s.run (messages.map .append) = { s with log := s.log ++ messages } := by
  induction messages generalizing s with
  | nil => simp [run]
  | cons message messages ih =>
    calc s.run ((message :: messages).map .append)
        = (s.move (.append message)).run (messages.map .append) := rfl
      _ = _ := by rw [ih]; simp [move]

/-- Either `next` is `poll`, or `poll` was asked from some position and `next` is answered from
`log`. -/
def ReadOff (log : List Json) (poll next : ClonePoll) : Prop :=
  next = poll ∨ ∃ position, poll = .asked position ∧ next = .answered (Slice.ofLog log position)

/-- Where each of `polls` is `ReadOff` as one of `next`, some moves of the clones lead from `polls`
to `next`. -/
theorem exists_reads {log : List Json} (seq : Nat) {polls next : List ClonePoll}
    (reads : List.Forall₂ (ReadOff log) polls next) (done : List ClonePoll) :
    ∃ moves, run ⟨log, seq, done ++ polls⟩ moves = ⟨log, seq, done ++ next⟩ := by
  -- The polls are worked off from the front; those in `done` have had their turn.
  induction reads generalizing done with
  | nil => exact ⟨[], rfl⟩
  | @cons poll next polls others read reads ih =>
    obtain ⟨moves, reached⟩ := ih (done ++ [next])
    simp only [List.append_assoc, List.singleton_append] at reached
    obtain rfl | ⟨position, rfl, rfl⟩ := read
    · exact ⟨moves, reached⟩
    · have moved : move ⟨log, seq, done ++ .asked position :: polls⟩ (.read done.length) =
          ⟨log, seq, done ++ .answered (Slice.ofLog log position) :: polls⟩ := by
        simp [move]
      exact ⟨.read done.length :: moves, (congrArg (run · moves) moved).trans reached⟩

end SharedChannel

/-! ### The channel at the relay -/

/-- A poll at the relay as its clone sees it: where it goes on, or the slice that its call was
answered with. -/
def RelayPoll.view (relay : Interleaving) : RelayPoll → ClonePoll
  | .waiting position call =>
    match relay.outcome? call with
    | some (.received slice) => .answered slice
    | _ => .asked position
  | .returned payloads => .returned payloads
  | .failed => .failed

theorem RelayPoll.view_waiting (relay : Interleaving) (position call : Nat) :
    (waiting position call).view relay = .asked position ∨
      ∃ slice, (waiting position call).view relay = .answered slice := by
  rw [view]
  split
  · exact .inr ⟨_, rfl⟩
  · exact .inl rfl

namespace Sharing

variable {s : Sharing} {channel : String}

/-- Clones without the relay: the log of their channel, the number they share, and their polls. -/
def view (s : Sharing) : SharedChannel :=
  ⟨s.relay.messages s.shared.channel, s.shared.seq, s.polls.map (RelayPoll.view s.relay)⟩

/-- A poll that waits does so for a `.receive` on the channel, for what lies past its position. -/
structure Sound (s : Sharing) : Prop where
  relay : s.relay.Sound
  calls : ∀ {position call : Nat}, .waiting position call ∈ s.polls → ∃ start stage,
    s.relay.calls[call]? = some ⟨.receive s.shared.channel start, stage⟩ ∧ start.toNat = position

theorem sound_start {relay : Interleaving} (sound : relay.Sound) (shared : PayloadChannel) :
    (start relay shared).Sound where
  relay := sound
  calls member := nomatch member

/-- A `move` of the calls leaves the view of a `poll` as it is, or it is `ReadOff` the log before
the move. -/
theorem Sound.readOff (sound : s.Sound) (move : Move) {poll : RelayPoll} (member : poll ∈ s.polls) :
    SharedChannel.ReadOff (s.relay.messages s.shared.channel) (poll.view s.relay)
      (poll.view (s.relay.move move)) := by
  cases poll with
  | returned payloads | failed => exact .inl rfl
  | waiting position call =>
    obtain ⟨start, stage, found, rfl⟩ := sound.calls member
    cases before : s.relay.outcome? call with
    | some given =>
      -- An answer is final.
      have kept := Interleaving.outcome?_move_of_some before move
      exact .inl (by simp only [RelayPoll.view, before, kept])
    | none =>
      cases after : (s.relay.move move).outcome? call with
      | none => exact .inl (by simp only [RelayPoll.view, before, after])
      | some outcome =>
        -- The move answers the call, and it does so off the log as it was before.
        obtain ⟨-, rfl⟩ := Interleaving.outcome_of_move sound.relay found before after
        exact .inr ⟨start.toNat, by simp only [RelayPoll.view, before],
          by simp only [RelayPoll.view, after]; rfl⟩

/-- Beginning a `call` changes the view of no `poll` that waits. -/
theorem Sound.view_begin (sound : s.Sound) (call : Call) {poll : RelayPoll}
    (member : poll ∈ s.polls) : poll.view (s.relay.move (.begin call)) = poll.view s.relay := by
  cases poll with
  | returned payloads | failed => rfl
  | waiting position index =>
    obtain ⟨start, stage, found, -⟩ := sound.calls member
    have inside := (List.getElem?_eq_some_iff.1 found).1
    have same : (s.relay.move (.begin call)).calls[index]? = s.relay.calls[index]? :=
      List.getElem?_append_left inside
    simp only [RelayPoll.view, Interleaving.outcome?_congr same]

/-- Replacing a poll by a `next` that does not wait, and `shared` by one of the same channel, keeps
`Sound`. -/
theorem Sound.set (sound : s.Sound) (shared : PayloadChannel)
    (named : shared.channel = s.shared.channel) (index : Nat) {next : RelayPoll}
    (done : ∀ position call, next ≠ .waiting position call) :
    Sound { s with shared, polls := s.polls.set index next } where
  relay := sound.relay
  calls member := by
    rw [named]
    rcases List.mem_or_eq_of_mem_set member with old | new
    · exact sound.calls old
    · exact absurd new.symm (done _ _)

theorem sound_step (sound : s.Sound) (event : Event) : (s.step event).Sound := by
  cases event with
  | calls move =>
    refine ⟨Interleaving.sound_move sound.relay move, fun member => ?_⟩
    obtain ⟨start, stage, found, here⟩ := sound.calls member
    exact ⟨start, _, Interleaving.getElem?_move found move, here⟩
  | ask start =>
    by_cases here : start.toNat = s.shared.seq
    · rw [step_ask here]
      refine ⟨Interleaving.sound_move sound.relay _, fun member => ?_⟩
      rcases List.mem_append.1 member with old | new
      · obtain ⟨begin, stage, found, position⟩ := sound.calls old
        exact ⟨begin, _, Interleaving.getElem?_move found _, position⟩
      · -- The new call has only begun, and it asks from where the shared number stands.
        obtain ⟨rfl, rfl⟩ := RelayPoll.waiting.inj (List.mem_singleton.1 new)
        exact ⟨start, .naming, List.getElem?_concat_length, here⟩
    · rwa [step, if_neg here]
  | take index =>
    simp only [step]
    -- A poll that has been taken or has failed waits for no call any more.
    split
    · split
      · next slice _ =>
        refine sound.set (s.shared.take slice).1 rfl index ?_
        simp
      · exact sound
    · exact sound
  | fail index =>
    simp only [step]
    split
    · refine sound.set _ rfl index ?_
      simp
    · exact sound

theorem channel_step (s : Sharing) (event : Event) :
    (s.step event).shared.channel = s.shared.channel := by
  cases event with
  | calls move => rfl
  | ask start =>
    rw [step]
    split <;> rfl
  | take index =>
    simp only [step]
    split
    · split <;> rfl
    · rfl
  | fail index =>
    simp only [step]
    split <;> rfl

/-- A `move` of the calls is, in the view of the clones, some moves: an appended message and
answers read off the log. -/
theorem Sound.view_calls (sound : s.Sound) (move : Move) :
    ∃ moves, (s.step (.calls move)).view = s.view.run moves := by
  obtain ⟨stored, grown⟩ :=
    Interleaving.messages_grow_run sound.relay [move] s.shared.channel
  obtain ⟨reads, reached⟩ := SharedChannel.exists_reads s.shared.seq
    (List.forall₂_map_left_iff.2 (List.forall₂_map_right_iff.2
      (List.forall₂_same.2 fun poll => sound.readOff move))) []
  -- Reading comes first: what a move stores is not in the answers that it gives.
  refine ⟨reads ++ stored.map .append, ?_⟩
  calc (s.step (.calls move)).view
      = ⟨s.relay.messages s.shared.channel ++ stored, s.shared.seq,
          s.polls.map (RelayPoll.view (s.relay.move move))⟩ := by rw [grown]; rfl
    _ = (s.view.run reads).run (stored.map .append) := by
        have seen : s.view.run reads = ⟨s.relay.messages s.shared.channel, s.shared.seq,
            s.polls.map (RelayPoll.view (s.relay.move move))⟩ := reached
        rw [SharedChannel.run_appends, seen]
    _ = _ := (SharedChannel.run_append _ _ _).symm

/-- `.ask` is, in the view of the clones, their move `.ask`. -/
theorem Sound.view_ask (sound : s.Sound) {start : UInt64} (here : start.toNat = s.shared.seq) :
    (s.step (.ask start)).view = s.view.move .ask := by
  have fresh : (s.relay.move (.begin (.receive s.shared.channel start))).outcome?
      s.relay.calls.length = none := by
    simp [Interleaving.outcome?, Interleaving.move]
  rw [step_ask here]
  simp only [view, SharedChannel.move, List.map_append, List.map_singleton, RelayPoll.view, fresh]
  rw [List.map_congr_left fun poll => sound.view_begin _]
  rfl

theorem view_take (s : Sharing) (index : Nat) :
    (s.step (.take index)).view = s.view.move (.take index) := by
  have seen : s.view.polls[index]? = s.polls[index]?.map (RelayPoll.view s.relay) :=
    List.getElem?_map
  simp only [step, SharedChannel.move, seen]
  -- Taking reads the answer of the call, which the view shows as the answer of the poll.
  cases s.polls[index]? with
  | none => rfl
  | some poll =>
    cases poll with
    | returned payloads | failed => rfl
    | waiting position call =>
      cases answered : s.relay.outcome? call with
      | none => simp only [Option.map_some, RelayPoll.view, answered]
      | some outcome =>
        cases outcome with
        | received slice =>
          simp only [Option.map_some, RelayPoll.view, answered, view, List.map_set]
          rfl
        | sent | seq => simp only [Option.map_some, RelayPoll.view, answered]

theorem view_fail (s : Sharing) (index : Nat) :
    (s.step (.fail index)).view = s.view.move (.fail index) := by
  have seen : s.view.polls[index]? = s.polls[index]?.map (RelayPoll.view s.relay) :=
    List.getElem?_map
  simp only [step, SharedChannel.move, seen]
  cases s.polls[index]? with
  | none => rfl
  | some poll =>
    cases poll with
    | returned payloads | failed => rfl
    | waiting position call =>
      -- Whether the relay has answered makes no difference.
      obtain asked | ⟨slice, answered⟩ := RelayPoll.view_waiting s.relay position call
      · simp only [Option.map_some, asked, view, List.map_set]
        rfl
      · simp only [Option.map_some, answered, view, List.map_set]
        rfl

/-- Every `event` is, in the view of the clones, some moves of `SharedChannel`. -/
theorem view_step (sound : s.Sound) (event : Event) :
    ∃ moves, (s.step event).view = s.view.run moves := by
  cases event with
  | calls move => exact sound.view_calls move
  | ask start =>
    by_cases here : start.toNat = s.shared.seq
    · exact ⟨[.ask], sound.view_ask here⟩
    · exact ⟨[], by rw [step, if_neg here]; rfl⟩
  | take index => exact ⟨[.take index], s.view_take index⟩
  | fail index => exact ⟨[.fail index], s.view_fail index⟩

theorem view_run (sound : s.Sound) (events : List Event) :
    ∃ moves, (s.run events).view = s.view.run moves := by
  induction events generalizing s with
  | nil => exact ⟨[], rfl⟩
  | cons event events ih =>
    obtain ⟨moves, stepped⟩ := view_step sound event
    obtain ⟨rest, reached⟩ := ih (sound_step sound event)
    rw [stepped, ← SharedChannel.run_append] at reached
    exact ⟨moves ++ rest, reached⟩

theorem sound_run (sound : s.Sound) (events : List Event) : (s.run events).Sound := by
  induction events generalizing s with
  | nil => exact sound
  | cons event events ih => exact ih (sound_step sound event)

theorem channel_run (s : Sharing) (events : List Event) :
    (s.run events).shared.channel = s.shared.channel := by
  induction events generalizing s with
  | nil => rfl
  | cons event events ih => exact (ih _).trans (s.channel_step event)

theorem returned_mem_view {payloads : List Bytes} :
    .returned payloads ∈ s.view.polls ↔ .returned payloads ∈ s.polls := by
  constructor
  · intro member
    obtain ⟨poll, found, same⟩ := List.mem_map.1 member
    cases poll with
    | waiting position call =>
      obtain asked | ⟨slice, answered⟩ := RelayPoll.view_waiting s.relay position call
      · exact nomatch asked.symm.trans same
      · exact nomatch answered.symm.trans same
    | returned others => rwa [← ClonePoll.returned.inj same]
    | failed => exact nomatch same
  · exact fun member => List.mem_map.2 ⟨_, member, rfl⟩

/-- **Clones lose nothing.** They begin at a number `first` within the log of `channel`, and any
`events` follow: polls of any of them side by side, some failing or dropped at any moment, and
calls of others. Take the number `s.shared.seq` that they share then. Every `payload` in the log
from `first` up to this number has been returned by a poll, among the payloads of a stretch of the
log from some `position` to some `last` around it. This is still true in the `final` state after
any `later` events, also when a slower poll has set the number back. -/
theorem loses_nothing {before : List Move} {channel : String} {first : Nat}
    (inside : first ≤ ((Interleaving.start.run before).messages channel).length)
    (events later : List Event) {s final : Sharing}
    (reached : s = (start (Interleaving.start.run before) ⟨channel, first⟩).run events)
    (ended : final = s.run later) :
    s.shared.seq ≤ (s.relay.messages channel).length ∧
    ∀ place text payload, first ≤ place → place < s.shared.seq →
      (final.relay.messages channel)[place]? = some (.string text) →
      Base64.decode? text = some payload →
      ∃ position last, position ≤ place ∧ place < last ∧
        last ≤ (final.relay.messages channel).length ∧
        .returned (payloadsBetween (final.relay.messages channel) position place ++
          payload :: payloadsBetween (final.relay.messages channel) (place + 1) last) ∈
            final.polls := by
  have started := sound_start (Interleaving.sound_run Interleaving.sound_start before)
    ⟨channel, first⟩
  have sound : s.Sound := reached ▸ sound_run started events
  have named : s.shared.channel = channel := reached ▸ channel_run _ events
  have still : final.shared.channel = channel := by rw [ended, channel_run, named]
  -- The view moves as a shared channel does, so it keeps and covers what such a channel does.
  have keeps : s.view.Keeps first := by
    obtain ⟨moves, seen⟩ := view_run started events
    rw [reached, seen]
    exact SharedChannel.keeps_run (SharedChannel.keeps_start inside) moves
  have onward : s.view.Onward final.view := by
    obtain ⟨moves, seen⟩ := view_run sound later
    rw [ended, seen]
    exact s.view.onward_run moves
  subst still
  refine ⟨named ▸ keeps.inside, fun place text payload begun earlier found carries => ?_⟩
  obtain ⟨position, last, early, late, within, returned⟩ :=
    (keeps.covers place begun earlier).mono onward
  have carried : payload? (.string text) = some payload := carries
  have stretch := payloadsBetween_eq_append found carried early late
  exact ⟨position, last, early, late, within, stretch ▸ returned_mem_view.1 returned⟩

/-- A payload has been sent to channel `a`. -/
def sending : List Move :=
  [.begin (.send "a" (.string "AQ==")), .advance 0, .advance 0, .advance 0, .advance 0]

/-- Two clones poll; one of them is answered before another payload is sent, the other one after
that, and this one takes its answer. -/
def overlapping : List Event :=
  [.ask 0, .ask 0, .calls (.advance 1), .calls (.advance 1), .calls (.advance 1),
    .calls (.begin (.send "a" (.string "Ag=="))), .calls (.advance 3), .calls (.advance 3),
    .calls (.advance 2), .calls (.advance 2), .calls (.advance 2), .take 1]

theorem loses_nothing_set_back :
    let s := (start (Interleaving.start.run sending) ⟨"a", 0⟩).run overlapping
    let final := s.run [.take 0]
    s.shared.seq = 2 ∧ final.shared.seq = 1 ∧
      ∃ position last, position ≤ 1 ∧ 1 < last ∧ last ≤ (final.relay.messages "a").length ∧
        .returned (payloadsBetween (final.relay.messages "a") position 1 ++
          [2] :: payloadsBetween (final.relay.messages "a") 2 last) ∈ final.polls :=
  ⟨rfl, rfl, (@loses_nothing sending "a" 0 (Nat.zero_le _) overlapping [.take 0] _ _ rfl rfl).2
    1 "Ag==" [2] (Nat.zero_le 1) (Nat.lt_succ_self 1) rfl rfl⟩

end Sharing

end StateChannel
