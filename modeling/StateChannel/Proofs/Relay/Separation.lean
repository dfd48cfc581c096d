import StateChannel.Proofs.Relay.Board

/-!
# Channels do not interfere

What there is to see from one channel is fixed by what happens on it and by the time that passes.
The part of a board that belongs to a channel goes its own way: the events of other channels pass it
by, and of the passing of time it feels what it would feel alone.

## Main definitions

* `Board.only`: the part of a board that belongs to a channel
* `Board.Keyed`: the readers of a board are known by the names of their channels

## Main results

* `Board.only_step_of_concerns`, `Board.only_step_of_not_concerns`: the part after an event
* `Board.only_run`: the part after a course of events
* `Timeline.channels_separate`: two courses that agree on a channel cannot be told apart there
-/

namespace StateChannel

namespace Board

variable {κ : Type}

/-- The part of the board `b` that belongs to `channel`: its log and its readers. -/
def only (b : Board κ) (channel : String) : Board κ where
  log name := if name = channel then b.log name else .empty
  now := b.now
  waits := b.waits.filter fun w => w.channel = channel
  woken := b.woken.filter fun w => w.channel = channel

@[simp]
theorem log_only_self (b : Board κ) (channel : String) :
    (b.only channel).log channel = b.log channel := if_pos rfl

/-- Every reader of `b` has the name of its channel as the first part of its key. -/
structure Keyed (b : Board (String × κ)) : Prop where
  waits : ∀ w ∈ b.waits, w.key.1 = w.channel
  woken : ∀ w ∈ b.woken, w.key.1 = w.channel

/-- Those of the deliveries to `readers` whose key names `channel` are the deliveries that `b.only
channel` makes to its own readers. -/
theorem filter_map_deliver_only (b : Board (String × κ)) (channel : String)
    (time : Standing (String × κ) → Nat) (readers : List (Standing (String × κ)))
    (keyed : ∀ w ∈ readers, w.key.1 = w.channel) :
    ((readers.map fun w => b.deliver (time w) w).filter fun d => d.key.1 = channel) =
      (readers.filter fun w => w.channel = channel).map fun w =>
        (b.only channel).deliver (time w) w := by
  have same : ∀ w ∈ readers,
      decide (w.key.1 = channel) = decide (w.channel = channel) := fun w member => by
    rw [keyed w member]
  rw [List.filter_map]
  -- What is left is read from the log of this channel, which its part of the board has.
  refine (congrArg _ (List.filter_congr same)).trans (List.map_congr_left fun w member => ?_)
  have here : w.channel = channel := by simpa using (List.mem_filter.1 member).2
  simp only [deliver, here, log_only_self]

theorem only_resumeWhere {b : Board (String × κ)} (keyed : b.Keyed) (channel : String)
    (goes : String × κ → Bool) :
    (b.resumeWhere goes).1.only channel = ((b.only channel).resumeWhere goes).1 ∧
      ((b.resumeWhere goes).2.filter fun d => d.key.1 = channel) =
        ((b.only channel).resumeWhere goes).2 := by
  constructor
  · simp only [resumeWhere, only, List.filter_filter, Bool.and_comm]
  · have told := b.filter_map_deliver_only channel (fun _ => b.now)
      (b.woken.filter fun w => goes w.key)
      fun w member => keyed.woken w (List.mem_filter.1 member).1
    have readers : (b.woken.filter fun w => goes w.key).filter (fun w => w.channel = channel) =
        (b.only channel).woken.filter fun w => goes w.key := by
      simp only [only, List.filter_filter, Bool.and_comm]
    rw [readers] at told
    exact told

theorem only_pass {b : Board (String × κ)} (keyed : b.Keyed) (channel : String) (millis : Nat) :
    (b.pass millis).1.only channel = ((b.only channel).pass millis).1 ∧
      ((b.pass millis).2.filter fun d => d.key.1 = channel) =
        ((b.only channel).pass millis).2 := by
  constructor
  · simp only [pass, only, List.filter_filter, Bool.and_comm]
    rfl
  · have told := b.filter_map_deliver_only channel (fun w => w.deadline)
      ((b.waits.filter fun w => w.deadline ≤ b.now + millis).mergeSort
        fun v w => v.deadline ≤ w.deadline)
      fun w member => keyed.waits w (List.mem_filter.1 (List.mem_mergeSort.1 member)).1
    -- Sorting all of them and choosing those of the channel is choosing first and sorting then.
    have readers : ((b.waits.filter fun w => w.deadline ≤ b.now + millis).mergeSort
          fun v w => v.deadline ≤ w.deadline).filter (fun w => w.channel = channel) =
        ((b.only channel).waits.filter fun w => w.deadline ≤ b.now + millis).mergeSort
          fun v w => v.deadline ≤ w.deadline := by
      rw [filter_sort]
      simp only [only, List.filter_filter, Bool.and_comm]
    rw [readers] at told
    exact told

variable [DecidableEq κ]

theorem Keyed.step {b : Board (String × κ)} (keyed : b.Keyed) (event : Timeline.Event κ) :
    (b.step event).1.Keyed := by
  cases event with
  | append channel message =>
    refine ⟨fun w member => keyed.waits w (List.mem_filter.1 member).1, fun w member => ?_⟩
    rcases List.mem_append.1 member with old | new
    · exact keyed.woken w old
    · exact keyed.waits w (List.mem_filter.1 new).1
  | seq channel => exact keyed
  | receive channel key start timeout =>
    -- A reader that waits has the name of its channel in its key from the start.
    by_cases told : start < (b.log channel).seq ∨ timeout = 0
    · rw [Board.step, Board.receive, if_pos told]
      exact keyed
    · rw [Board.step, Board.receive, if_neg told]
      refine ⟨fun w member => ?_, keyed.woken⟩
      rcases List.mem_append.1 member with old | new
      · exact keyed.waits w old
      · rw [List.mem_singleton.1 new]
  | drop channel key =>
    exact ⟨fun w member => keyed.waits w (List.mem_filter.1 member).1,
      fun w member => keyed.woken w (List.mem_filter.1 member).1⟩
  | resume channel key =>
    exact ⟨keyed.waits, fun w member => keyed.woken w (List.mem_filter.1 member).1⟩
  | pass millis =>
    exact ⟨fun w member => keyed.waits w (List.mem_filter.1 member).1,
      fun w member => keyed.woken w (List.mem_filter.1 member).1⟩

theorem Keyed.run {b : Board (String × κ)} (keyed : b.Keyed) (events : List (Timeline.Event κ)) :
    (b.run events).1.Keyed := by
  induction events generalizing b with
  | nil => exact keyed
  | cons event events ih => exact ih (keyed.step event)

/-- An `event` that concerns `channel` does to `b.only channel` what it would if that were the
whole board, and readers of `channel` are told the same. -/
theorem only_step_of_concerns {b : Board (String × κ)} (keyed : b.Keyed) {channel : String}
    {event : Timeline.Event κ} (concerns : event.concerns channel) :
    (b.step event).1.only channel = ((b.only channel).step event).1 ∧
      ({ (b.step event).2 with
          told := (b.step event).2.told.filter fun d => d.key.1 = channel } : Timeline.Reply κ) =
        ((b.only channel).step event).2 := by
  -- The event has to do with `channel`, or it lets readers go on, on all channels alike.
  cases event with
  | append c message =>
    obtain rfl : c = channel := by simpa [Timeline.Event.concerns] using concerns
    refine ⟨?_, by simp [Board.step, Board.append]⟩
    simp only [Board.step, Board.append, only, List.filter_append, List.filter_filter,
      Bool.and_comm]
    congr 1
    funext name
    by_cases same : name = c <;> simp [same]
  | seq c =>
    obtain rfl : c = channel := by simpa [Timeline.Event.concerns] using concerns
    exact ⟨rfl, by simp [Board.step]⟩
  | receive c key start timeout =>
    obtain rfl : c = channel := by simpa [Timeline.Event.concerns] using concerns
    by_cases told : start < (b.log c).seq ∨ timeout = 0
    · have told' : start < ((b.only c).log c).seq ∨ timeout = 0 := by rwa [log_only_self]
      rw [Board.step, Board.step, Board.receive, Board.receive, if_pos told, if_pos told']
      simp [only]
    · have waits' : ¬(start < ((b.only c).log c).seq ∨ timeout = 0) := by rwa [log_only_self]
      rw [Board.step, Board.step, Board.receive, Board.receive, if_neg told, if_neg waits']
      simp [only]
  | drop c key =>
    refine ⟨?_, rfl⟩
    simp only [Board.step, Board.drop, only, List.filter_filter, Bool.and_comm]
  | resume c key =>
    obtain ⟨after, told⟩ := only_resumeWhere keyed channel fun k => k = (c, key)
    exact ⟨after, congrArg (Timeline.Reply.mk none) told⟩
  | pass millis =>
    obtain ⟨between, woken⟩ := only_resumeWhere keyed channel fun _ => true
    have keyed' : (b.resumeWhere fun _ => true).1.Keyed :=
      ⟨keyed.waits, fun w member => keyed.woken w (List.mem_filter.1 member).1⟩
    obtain ⟨after, due⟩ := only_pass keyed' channel millis
    rw [between] at after due
    have told := (List.filter_append _ _).trans (congrArg₂ (· ++ ·) woken due)
    exact ⟨after, congrArg (Timeline.Reply.mk none) told⟩

/-- An `event` that does not concern `channel` leaves `b.only channel` as it is. -/
theorem only_step_of_not_concerns {b : Board (String × κ)} (keyed : b.Keyed) {channel : String}
    {event : Timeline.Event κ} (elsewhere : event.concerns channel = false) :
    (b.step event).1.only channel = b.only channel := by
  -- To take away readers of another channel takes away none of this one.
  have others {c : String} (other : c ≠ channel) (key : κ)
      {readers : List (Standing (String × κ))} (named : ∀ w ∈ readers, w.key.1 = w.channel) :
      (readers.filter fun w => !decide (w.key = (c, key))).filter (fun w => w.channel = channel) =
        readers.filter fun w => w.channel = channel := by
    rw [List.filter_filter]
    refine List.filter_congr fun w member => ?_
    by_cases here : w.channel = channel
    · have unlike : w.key ≠ (c, key) := fun same =>
        other (by rw [← here, ← named w member, same])
      simp [unlike]
    · simp [here]
  cases event with
  | append c message =>
    have other : c ≠ channel := by simpa [Timeline.Event.concerns] using elsewhere
    simp only [Board.step, Board.append, only, List.filter_append, List.filter_filter]
    congr 1
    · funext name
      by_cases here : name = channel
      · simp [here, other.symm]
      · simp [here]
    · refine List.filter_congr fun w _ => ?_
      by_cases here : w.channel = channel
      · simp [here, other.symm]
      · simp [here]
    · have nobody : (b.waits.filter fun w =>
          decide (w.channel = channel) && decide (w.channel = c)) = [] := by
        refine List.filter_eq_nil_iff.2 fun w _ both => ?_
        simp only [Bool.and_eq_true, decide_eq_true_eq] at both
        exact other (both.2.symm.trans both.1)
      rw [nobody, List.append_nil]
  | seq c => rfl
  | receive c key start timeout =>
    have other : c ≠ channel := by simpa [Timeline.Event.concerns] using elsewhere
    by_cases told : start < (b.log c).seq ∨ timeout = 0
    · rw [Board.step, Board.receive, if_pos told]
    · rw [Board.step, Board.receive, if_neg told]
      simp [only, other]
  | drop c key =>
    have other : c ≠ channel := by simpa [Timeline.Event.concerns] using elsewhere
    simp only [Board.step, Board.drop, only, others other key keyed.waits,
      others other key keyed.woken]
  | resume c key =>
    have other : c ≠ channel := by simpa [Timeline.Event.concerns] using elsewhere
    simp only [Board.step, Board.resumeWhere, only, others other key keyed.woken]
  | pass millis => exact Bool.noConfusion elsewhere

/-- A run on `b` is, seen from `channel`, a run on `b.only channel` by the events that concern
it. -/
theorem only_run {b : Board (String × κ)} (keyed : b.Keyed) (channel : String)
    (events : List (Timeline.Event κ)) :
    (b.run events).1.only channel =
        ((b.only channel).run (events.filter (·.concerns channel))).1 ∧
      Timeline.seenFrom channel (b.run events).2 =
        ((b.only channel).run (events.filter (·.concerns channel))).2 := by
  induction events generalizing b with
  | nil => exact ⟨rfl, rfl⟩
  | cons event events ih =>
    -- An event that does not concern the channel falls out of both sides.
    obtain ⟨all, seen⟩ := ih (keyed.step event)
    cases concerns : event.concerns channel with
    | true =>
      obtain ⟨after, reply⟩ := only_step_of_concerns keyed concerns
      rw [after] at all seen
      rw [List.filter_cons_of_pos concerns]
      refine ⟨all, ?_⟩
      simp only [Timeline.seenFrom] at seen
      simp only [Board.run, Timeline.seenFrom, List.filter_cons_of_pos, concerns, List.map_cons,
        reply, seen]
    | false =>
      rw [only_step_of_not_concerns keyed concerns] at all seen
      rw [List.filter_cons_of_neg (by simp [concerns])]
      refine ⟨all, ?_⟩
      simp only [Timeline.seenFrom] at seen
      simp only [Board.run, Timeline.seenFrom, List.filter_cons, concerns, Bool.false_eq_true,
        if_false, seen]

end Board

namespace Timeline

variable {κ : Type}

theorem keyed_board_empty : (empty : Timeline (String × κ)).board.Keyed where
  waits _ member := nomatch member
  woken _ member := nomatch member

variable [DecidableEq κ]

/-- **Channels are separate.** Let `events` and `others` be equal as far as they concern `channel`,
the passing of time included. Then what is seen from `channel` is the same in both runs: the
replies to its events, and what its readers are told and when. The log of `channel` is the same in
the end, and names that differ are different channels. -/
theorem channels_separate {channel : String} {events others : List (Event κ)}
    (same : events.filter (·.concerns channel) = others.filter (·.concerns channel)) :
    seenFrom channel ((empty : Timeline (String × κ)).run events).2 =
        seenFrom channel ((empty : Timeline (String × κ)).run others).2 ∧
      ((empty : Timeline (String × κ)).run events).1.registry.logOf channel =
        ((empty : Timeline (String × κ)).run others).1.registry.logOf channel ∧
      ∀ (r : Registry) (name other : String),
        ((r.enter name).1.enter other).2 = (r.enter name).2 ↔ other = name := by
  obtain ⟨_, board, record⟩ := placed_empty.run events
  obtain ⟨_, board', record'⟩ := placed_empty.run others
  obtain ⟨all, seen⟩ := Board.only_run keyed_board_empty channel events
  obtain ⟨all', seen'⟩ := Board.only_run keyed_board_empty channel others
  rw [← same] at all' seen'
  refine ⟨?_, ?_, fun r name other => ⟨fun place => ?_, ?_⟩⟩
  · rw [record, record', seen, seen']
  · have parts := congrArg (fun b => b.log channel) (all.trans all'.symm)
    rw [← board, ← board'] at parts
    simp only [Board.log_only_self] at parts
    exact parts
  -- The place of a channel is found by its own name only.
  · have found := Registry.find?_enter_of_find? (Registry.find?_enter r name) other
    have found' := Registry.find?_enter (r.enter name).1 other
    exact Registry.eq_of_find? (place ▸ found') found
  · rintro rfl
    have found := Registry.find?_enter r other
    have again := Registry.find?_enter (r.enter other).1 other
    rw [Registry.find?_enter_of_find? found] at again
    exact (Option.some.inj again).symm

/-- The case of `channels_separate` for the channel with the empty name: its reader is not woken by
an append to channel `b`. -/
theorem channels_separate_unnamed :
    seenFrom "" ((empty : Timeline (String × Nat)).run
        [.receive "" 0 0 5, .append "b" .null, .pass 2, .append "" .null, .pass 5]).2 =
      seenFrom "" ((empty : Timeline (String × Nat)).run
        [.receive "" 0 0 5, .pass 2, .append "" .null, .append "b" .null, .pass 5]).2 :=
  (channels_separate (by rfl)).1

end Timeline

end StateChannel
