import StateChannel.Proofs.Relay.Linearization

/-!
# No waking is lost

An append stores its message first and wakes the readers later, and readers come, look, wait and
leave in between. A reader that waits unwoken has seen all messages but those whose appends are
still between their two halves: had one of these appends woken the readers since the reader
subscribed, the number of wakings would have gone up.

## Main results

* `Interleaving.stored_of_wakeups_eq`: as long as nobody has been woken, all that has been stored
  is still about to wake
* `Interleaving.exists_check`: a reader waits since a look at the log
* `Interleaving.getElem?_messages_of_answered`: an answer holds all that was there before it
* `Interleaving.no_lost_waking`: what an unwoken reader has not seen, what a woken one was woken
  for, and what a reader is told in the end
-/

namespace StateChannel

namespace Interleaving

variable {s : Interleaving}

/-! ### Wakings are counted -/

/-- The step of a call that is `.stored` wakes the readers of its channel: `wakeups` goes up. -/
theorem wakeups_lt_of_stored (sound : s.Sound) {index : Nat} {call : Call} {id : LogId}
    (found : s.calls[index]? = some ⟨call, .stored id⟩) :
    (s.registry.logOf call.channel).wakeups <
      ((s.move (.advance index)).registry.logOf call.channel).wakeups := by
  rw [move_advance found]
  show _ < (((Stage.stored id).advance call s.registry).1.logOf call.channel).wakeups
  rw [Stage.wakeups_advance (sound found), if_pos ⟨rfl, trivial⟩]
  exact Nat.lt_succ_self _

/-- If `wakeups` of `channel` has not changed in the run of `moves`, every message stored on it
meanwhile belongs to a send that is still `.stored` and is to wake the readers with its next
step. -/
theorem stored_of_wakeups_eq (sound : s.Sound) {moves : List Move} {channel : String}
    (quiet : ((s.run moves).registry.logOf channel).wakeups = (s.registry.logOf channel).wakeups)
    {stored : Stored} (member : stored ∈ Stored.onChannel channel (s.history moves)) :
    ∃ id, (s.run moves).calls[stored.index]? =
      some ⟨.send channel stored.message, .stored id⟩ := by
  induction moves using List.reverseRecOn with
  | nil => exact nomatch member
  | append_singleton moves move ih =>
    have now := sound_run sound moves
    rw [run_append, run_cons, run_nil] at quiet ⊢
    -- The count cannot have moved in between, since it never goes down.
    have before : ((s.run moves).registry.logOf channel).wakeups =
        (s.registry.logOf channel).wakeups :=
      Nat.le_antisymm (quiet ▸ (grows_move now move).wakeups channel)
        ((grows_run sound moves).wakeups channel)
    rw [history_append, history_singleton, Stored.onChannel_append] at member
    rcases List.mem_append.1 member with old | new
    · obtain ⟨id, found⟩ := ih before old
      refine ⟨id, (getElem?_move found move).trans ?_⟩
      cases move with
      | begin call => rfl
      | advance place =>
        -- The append itself has not gone on, or it would have been counted.
        have apart : place ≠ stored.index := by
          rintro rfl
          have more := wakeups_lt_of_stored now found
          rw [Call.channel, quiet, before] at more
          exact Nat.lt_irrefl _ more
        simp [Stage.next, apart]
      | timeOut place => simp [Stage.next, Stage.timeOut]
      | drop place => simp [Stage.next, Stage.drop]
    · obtain ⟨stores, same⟩ := List.mem_filter.1 new
      obtain ⟨stage, found, rfl, storing⟩ :=
        stores?_eq_some_iff.1 (Option.mem_toList.1 stores)
      obtain ⟨id, rfl, _⟩ := storing?_eq_some_iff.1 storing
      refine ⟨id, (getElem?_move found _).trans ?_⟩
      simp [Stage.next, Stage.advance, of_decide_eq_true same]

/-! ### Looking before waiting -/

/-- A reader that waits was `.subscribed` before some `.advance` of its own, with which it looked
at the log. -/
theorem exists_check {moves : List Move} {index : Nat} {call : Call} {id : LogId} {reader : Reader}
    (waits : (start.run moves).calls[index]? = some ⟨call, .waiting id reader⟩) :
    ∃ before after, moves = before ++ .advance index :: after ∧
      (start.run before).calls[index]? = some ⟨call, .subscribed id reader⟩ := by
  -- From the end of the run: the last move is the look, or the reader waited before it.
  induction moves using List.reverseRecOn with
  | nil => exact nomatch waits
  | append_singleton moves move ih =>
    rw [run_append, run_cons, run_nil] at waits
    rcases of_getElem?_move waits with ⟨stage, found, next⟩ | ⟨_, _, named⟩
    · rcases Stage.next_eq_waiting next.symm with rfl | ⟨rfl, rfl⟩
      · obtain ⟨before, after, same, subscribed⟩ := ih found
        exact ⟨before, after ++ [move], by simp [same], subscribed⟩
      · exact ⟨moves, [], rfl, found⟩
    · exact nomatch named

/-! ### What readers have seen -/

/-- While a reader is not woken, every message stored on its channel since it was `.subscribed`
belongs to a send that is still `.stored`. -/
theorem stored_of_not_isWoken {before after : List Move} {index : Nat} {call : Call} {id : LogId}
    {reader : Reader} (subscribed : (start.run before).calls[index]? =
      some ⟨call, .subscribed id reader⟩)
    (unwoken : ¬ reader.IsWoken ((start.run (before ++ after)).registry.log id)) {stored : Stored}
    (member : stored ∈ Stored.onChannel call.channel ((start.run before).history after)) :
    (start.run (before ++ after)).calls[stored.index]? =
      some ⟨.send call.channel stored.message, .stored id⟩ := by
  have sound := sound_run sound_start before
  have later := sound_run sound_start (before ++ after)
  obtain ⟨found, since, _⟩ := sound subscribed
  have kept := (grows_run sound after).find? found
  rw [← run_append] at kept
  -- The reader knows how often its log had been woken, and this has not changed.
  have silent : ((start.run (before ++ after)).registry.logOf call.channel).wakeups ≤
      ((start.run before).registry.logOf call.channel).wakeups := by
    rw [Registry.logOf_of_find? kept]
    exact Nat.le_trans (Nat.le_of_not_lt unwoken) since
  have quiet := Nat.le_antisymm silent
    (run_append start before after ▸ (grows_run sound after).wakeups call.channel)
  rw [run_append] at quiet
  obtain ⟨place, pending⟩ := stored_of_wakeups_eq sound quiet member
  rw [← run_append] at pending
  -- A channel has one place, so the append is on the reader's log.
  obtain rfl : place = id := Option.some.inj ((later pending).1.symm.trans kept)
  exact pending

/-- What the history of `before ++ after` lists for `channel` at a `place` past the length of the
log before `after` has been stored in `after`. -/
theorem mem_later_of_seq_le {before after : List Move} {channel : String} {id : LogId}
    (found : (start.run before).registry.find? channel = some id) {place : Nat} {stored : Stored}
    (beyond : ((start.run before).registry.log id).seq ≤ place)
    (listed : (Stored.onChannel channel (start.history (before ++ after)))[place]? = some stored) :
    stored ∈ Stored.onChannel channel ((start.run before).history after) := by
  have length : (Stored.onChannel channel (start.history before)).length =
      ((start.run before).registry.log id).seq := by
    rw [← Registry.logOf_of_find? found, ← Log.length_toList, toList_run sound_start,
      ← Stored.length_messagesOn]
    rfl
  rw [history_append, Stored.onChannel_append,
    List.getElem?_append_right (by rw [length]; exact beyond)] at listed
  exact List.mem_of_getElem? listed

/-- The `message` that the log of `channel` holds at `place` is listed there in the history. -/
theorem exists_stored {moves : List Move} {channel : String} {place : Nat} {message : Json}
    (present : ((start.run moves).registry.logOf channel).toList[place]? = some message) :
    ∃ stored, (Stored.onChannel channel (start.history moves))[place]? = some stored ∧
      stored.message = message := by
  have listed : (Stored.messagesOn channel (start.history moves))[place]? = some message := by
    rw [← present, toList_run sound_start]
    rfl
  rw [Stored.messagesOn, List.getElem?_map] at listed
  exact Option.map_eq_some_iff.1 listed

/-- A reader that is unanswered after `before` and answered after `after` is told each `message`
past its `position` that was in the log after `before`. -/
theorem getElem?_messages_of_answered {before after : List Move} {index : Nat} {channel : String}
    {position : UInt64} {slice : Slice} (unanswered : (start.run before).outcome? index = none)
    (told : (start.run (before ++ after)).calls[index]? =
      some ⟨.receive channel position, .answered (.received slice)⟩) {place : Nat} {message : Json}
    (present : ((start.run before).registry.logOf channel).toList[place]? = some message)
    (beyond : position.toNat ≤ place) :
    slice.messages[place - position.toNat]? = some message := by
  have sound := sound_run sound_start before
  rw [run_append] at told
  obtain ⟨earlier, later, rfl, same⟩ := exists_answering sound unanswered told
  obtain rfl := Outcome.received.inj same
  have inside := (List.getElem?_eq_some_iff.1 present).1
  -- The answer is read off a log that has grown since, and this place was in it before.
  calc (Slice.ofLog _ position.toNat).messages[place - position.toNat]?
      = (((start.run before).run earlier).registry.logOf channel).toList[place]? := by
        simp only [Slice.ofLog, Call.channel, List.getElem?_drop, Nat.add_sub_cancel' beyond]
    _ = ((start.run before).registry.logOf channel).toList[place]? := by
        rw [toList_run sound]
        exact List.getElem?_append_left inside
    _ = some message := present

/-- **No waking is lost.** Take any run of `moves` of any number of calls. First, if a reader waits
and is not woken, then it was `.subscribed` before the step with which it looked at its log, and
every `message` past the length that it saw then belongs to a send that is `.stored` and wakes it
with its next step. Second, if a reader was `.subscribed` before a message was stored, and the send
of that message has been answered, then the reader `IsWoken`. Third, what a reader is told contains
every `message` past its `position` that was in the log when the reader was still unanswered; so it
contains each one whose send was answered before the reader began. -/
theorem no_lost_waking (moves : List Move) :
    (∀ (index : Nat) (call : Call) (id : LogId) (reader : Reader),
      (start.run moves).calls[index]? = some ⟨call, .waiting id reader⟩ →
      ¬ reader.IsWoken ((start.run moves).registry.log id) →
      (∃ before after, moves = before ++ .advance index :: after ∧
        (start.run before).calls[index]? = some ⟨call, .subscribed id reader⟩) ∧
      ∀ (before after : List Move) (place : Nat) (message : Json),
        moves = before ++ .advance index :: after →
        (start.run before).calls[index]? = some ⟨call, .subscribed id reader⟩ →
        ((start.run before).registry.log id).seq ≤ place →
        ((start.run moves).registry.log id).toList[place]? = some message →
        ∃ stored, (Stored.onChannel call.channel (start.history moves))[place]? = some stored ∧
          stored.message = message ∧ (start.run moves).calls[stored.index]? =
            some ⟨.send call.channel message, .stored id⟩) ∧
    (∀ (before after : List Move) (index : Nat) (call : Call) (id : LogId) (reader : Reader)
      (stored : Stored) (outcome : Outcome), moves = before ++ after →
      (start.run before).calls[index]? = some ⟨call, .subscribed id reader⟩ →
      stored ∈ Stored.onChannel call.channel ((start.run before).history after) →
      (start.run moves).outcome? stored.index = some outcome →
      reader.IsWoken ((start.run moves).registry.log id)) ∧
    ∀ (before after : List Move) (index : Nat) (channel : String) (position : UInt64)
      (slice : Slice) (place : Nat) (message : Json), moves = before ++ after →
      (start.run before).outcome? index = none →
      (start.run moves).calls[index]? =
        some ⟨.receive channel position, .answered (.received slice)⟩ →
      ((start.run before).registry.logOf channel).toList[place]? = some message →
      position.toNat ≤ place →
      slice.messages[place - position.toNat]? = some message := by
  refine ⟨?_, ?_, ?_⟩
  · intro index call id reader waits unwoken
    refine ⟨exists_check waits, ?_⟩
    rintro before after place message rfl subscribed beyond present
    obtain ⟨found, _⟩ := sound_run sound_start _ waits
    rw [← Registry.logOf_of_find? found] at present
    obtain ⟨stored, listed, rfl⟩ := exists_stored present
    refine ⟨stored, listed, rfl, ?_⟩
    exact stored_of_not_isWoken subscribed unwoken
      (mem_later_of_seq_le (sound_run sound_start _ subscribed).1 beyond listed)
  · rintro before after index call id reader stored outcome rfl subscribed member answered
    by_contra unwoken
    -- For an unwoken reader the append would still be about to wake, but it has been answered.
    obtain ⟨other, found⟩ := outcome?_eq_some_iff.1 answered
    rw [stored_of_not_isWoken subscribed unwoken member] at found
    exact nomatch found
  · rintro before after index channel position slice place message rfl unanswered told present
      beyond
    exact getElem?_messages_of_answered unanswered told present beyond

/-- A reader waits on the empty log of channel `a`, and a message has been stored whose send has
not woken the reader yet. -/
def halfway : List Move :=
  [.begin (.receive "a" 0), .advance 0, .advance 0, .advance 0, .advance 0,
    .begin (.send "a" .null), .advance 1, .advance 1]

/-- The case of `no_lost_waking` for `halfway`: the message in the log is one that the reader has
not seen, the next step of its send wakes the reader, and the reader is then told of it. -/
theorem no_lost_waking_halfway :
    (∃ stored, (Stored.onChannel "a" (start.history halfway))[0]? = some stored ∧
      stored.message = .null ∧
      (start.run halfway).calls[stored.index]? = some ⟨.send "a" .null, .stored 0⟩) ∧
    Reader.IsWoken ⟨0, 0⟩ ((start.run (halfway ++ [.advance 1])).registry.log 0) ∧
    (Slice.mk [.null] 1).messages[0]? = some .null := by
  refine ⟨?_, ?_, ?_⟩
  · exact ((no_lost_waking halfway).1 0 (.receive "a" 0) 0 ⟨0, 0⟩ rfl (by decide)).2
      (halfway.take 4) (halfway.drop 5) 0 .null rfl rfl (Nat.le_refl 0) rfl
  · exact (no_lost_waking (halfway ++ [.advance 1])).2.1 (halfway.take 4)
      (halfway.drop 4 ++ [.advance 1]) 0 (.receive "a" 0) 0 ⟨0, 0⟩ ⟨1, "a", .null⟩ .sent rfl rfl
      (List.mem_singleton.2 rfl) rfl
  · exact (no_lost_waking (halfway ++ [.advance 1, .advance 0, .advance 0])).2.2 halfway
      [.advance 1, .advance 0, .advance 0] 0 "a" 0 ⟨[.null], 1⟩ 0 .null rfl rfl rfl rfl
      (Nat.le_refl 0)

end Interleaving

end StateChannel
