import StateChannel.Proofs.Relay.Steps
import StateChannel.Relay.Traffic
import Mathlib.Data.List.Induction

/-!
# One history for all calls

However the steps of calls come one between another, the log of a channel holds the messages of
its sends in the order in which they were stored, and every call is answered as if it had been made
alone at the moment of its answer.

## Main definitions

* `Stage.HasStored`, `Interleaving.HasStored`: a send has stored its message
* `Move.IsQuiet`: a move in which no call takes a step

## Main results

* `Interleaving.toList_run`: a log holds what the history says
* `Interleaving.mem_history_iff`, `Interleaving.nodup_history`: every send stores once
* `Interleaving.outcome_of_move`: what an answer says when it is given
* `Interleaving.outcome?_run_of_some`, `Interleaving.outcome?_run_of_isQuiet`: answers are final,
  and come from steps only
-/

namespace StateChannel

namespace Stage

/-- A send in this stage has stored its message: it is `stored` or `answered`. -/
def HasStored : Stage → Prop
  | .stored _ | .answered _ => True
  | _ => False

theorem hasStored_timeOut (stage : Stage) : stage.timeOut.HasStored ↔ stage.HasStored := by
  cases stage <;> exact Iff.rfl

theorem hasStored_drop (stage : Stage) : stage.drop.HasStored ↔ stage.HasStored := by
  cases stage <;> exact Iff.rfl

theorem hasStored_advance {r : Registry} {stage : Stage} {channel : String} {message : Json}
    (fits : stage.Fits (.send channel message) r) :
    (stage.advance (.send channel message) r).2.HasStored ↔
      stage.HasStored ∨ stage.storing? (.send channel message) = some message := by
  cases stage with
  | naming =>
    cases found : r.find? channel <;> simp [advance, Call.channel, found, HasStored, storing?]
  | creating | entered id | stored id | answered outcome | dropped =>
    simp [advance, HasStored, storing?]
  | subscribed id reader | waiting id reader | resuming id reader =>
    obtain ⟨_, _, start, other, _⟩ := fits
    exact Call.noConfusion other

end Stage

/-- The move is not `.advance`, so no call takes a step by it. -/
def Move.IsQuiet (move : Move) : Prop := ∀ index, move ≠ .advance index

namespace Interleaving

variable {s : Interleaving}

/-! ### Logs and history -/

theorem stores?_advance (s : Interleaving) (index : Nat) :
    s.stores? (.advance index) = s.calls[index]?.bind fun p =>
      (p.stage.storing? p.call).map fun message => ⟨index, p.call.channel, message⟩ := rfl

theorem toList_move (sound : s.Sound) (move : Move) (name : String) :
    ((s.move move).registry.logOf name).toList =
      (s.registry.logOf name).toList ++ Stored.messagesOn name (s.stores? move).toList := by
  cases move with
  | advance index =>
    cases found : s.calls[index]? with
    | none =>
      simp [move_advance_none found, stores?_advance, found, Stored.messagesOn, Stored.onChannel]
    | some p =>
      rw [move_advance found, stores?_advance, found]
      apply (Stage.toList_advance (sound found) name).trans
      cases storing : p.stage.storing? p.call <;> by_cases same : name = p.call.channel <;>
        simp [storing, same, Stored.messagesOn, Stored.onChannel, eq_comm]
  | begin call => exact (List.append_nil _).symm
  | timeOut index => exact (List.append_nil _).symm
  | drop index => exact (List.append_nil _).symm

/-- After `moves` the log of channel `name` holds what it held before, and then the messages that
`s.history moves` lists for `name`. -/
theorem toList_run (sound : s.Sound) (moves : List Move) (name : String) :
    ((s.run moves).registry.logOf name).toList =
      (s.registry.logOf name).toList ++ Stored.messagesOn name (s.history moves) := by
  induction moves generalizing s with
  | nil => exact (List.append_nil _).symm
  | cons move moves ih =>
    calc ((s.run (move :: moves)).registry.logOf name).toList
        = ((s.move move).registry.logOf name).toList ++
            Stored.messagesOn name ((s.move move).history moves) := ih (sound_move sound move)
      _ = (s.registry.logOf name).toList ++
            Stored.messagesOn name (s.history (move :: moves)) := by
          simp [toList_move sound, history]

/-! ### Every send stores once -/

/-- The call with the index of `stored` is a send of its message on its channel, in a stage that
`HasStored`. -/
def HasStored (s : Interleaving) (stored : Stored) : Prop :=
  ∃ stage, s.calls[stored.index]? = some ⟨.send stored.channel stored.message, stage⟩ ∧
    stage.HasStored

/-- After a move a send `HasStored` its message if it had before, or if the move is its own
`.advance` and stores the message. -/
theorem hasStored_next {r : Registry} {stage : Stage} {channel : String} {message : Json}
    (fits : stage.Fits (.send channel message) r) (index : Nat) (move : Move) :
    (stage.next (.send channel message) r index move).HasStored ↔
      stage.HasStored ∨
        move = .advance index ∧ stage.storing? (.send channel message) = some message := by
  cases move with
  | begin call => simp [Stage.next]
  | timeOut place =>
    by_cases same : place = index <;> simp [Stage.next, same, Stage.hasStored_timeOut]
  | drop place => by_cases same : place = index <;> simp [Stage.next, same, Stage.hasStored_drop]
  | advance place =>
    by_cases same : place = index <;> simp [Stage.next, same, Stage.hasStored_advance fits]

theorem storing?_eq_some_iff {call : Call} {stage : Stage} {message : Json} :
    stage.storing? call = some message ↔
      ∃ id, stage = .entered id ∧ call = .send call.channel message := by
  cases stage <;> cases call <;> simp [Stage.storing?, Call.channel]

/-- A move stores `stored` exactly when it advances a send of this message that holds the log of
the channel. -/
theorem stores?_eq_some_iff {move : Move} {stored : Stored} :
    s.stores? move = some stored ↔ ∃ stage,
      s.calls[stored.index]? = some ⟨.send stored.channel stored.message, stage⟩ ∧
        move = .advance stored.index ∧
        stage.storing? (.send stored.channel stored.message) = some stored.message := by
  constructor
  · intro stores
    cases move with
    | advance index =>
      rw [stores?_advance] at stores
      obtain ⟨⟨call, stage⟩, found, stores⟩ := Option.bind_eq_some_iff.1 stores
      obtain ⟨message, storing, rfl⟩ := Option.map_eq_some_iff.1 stores
      -- Only a send at its channel stores something, and that is its message.
      obtain ⟨id, rfl, same⟩ := storing?_eq_some_iff.1 storing
      refine ⟨.entered id, ?_, rfl, rfl⟩
      rw [found]
      exact congrArg (fun c => some (Pending.mk c (.entered id))) same
    | begin call => exact nomatch stores
    | timeOut index => exact nomatch stores
    | drop index => exact nomatch stores
  · rintro ⟨stage, found, rfl, storing⟩
    simp [stores?_advance, found, storing, Call.channel]

/-- After a move the interleaving `HasStored` what it had before and what `s.stores? move`
gives. -/
theorem hasStored_move (sound : s.Sound) (move : Move) (stored : Stored) :
    (s.move move).HasStored stored ↔ s.HasStored stored ∨ s.stores? move = some stored := by
  rw [stores?_eq_some_iff]
  constructor
  · rintro ⟨stage, found, done⟩
    rcases of_getElem?_move found with ⟨before, earlier, rfl⟩ | ⟨_, _, rfl⟩
    · rcases (hasStored_next (sound earlier) _ _).1 done with done | ⟨moved, storing⟩
      · exact .inl ⟨before, earlier, done⟩
      · exact .inr ⟨before, earlier, moved, storing⟩
    · exact done.elim
  · rintro (⟨stage, found, done⟩ | ⟨stage, found, moved, storing⟩)
    · exact ⟨_, getElem?_move found move, (hasStored_next (sound found) _ _).2 (.inl done)⟩
    · exact ⟨_, getElem?_move found move,
        (hasStored_next (sound found) _ _).2 (.inr ⟨moved, storing⟩)⟩

/-- The history of a run from `start` lists exactly what the run `HasStored`. -/
theorem mem_history_iff (moves : List Move) (stored : Stored) :
    stored ∈ start.history moves ↔ (start.run moves).HasStored stored := by
  induction moves using List.reverseRecOn with
  | nil => simp [history, HasStored, start]
  | append_singleton moves move ih =>
    rw [history_append, history_singleton, List.mem_append, ih, run_append, run_cons, run_nil,
      hasStored_move (sound_run sound_start moves), Option.mem_toList]

/-- No index stands twice in `start.history moves`: a send stores its message once. -/
theorem nodup_history (moves : List Move) : ((start.history moves).map Stored.index).Nodup := by
  induction moves using List.reverseRecOn with
  | nil => exact List.nodup_nil
  | append_singleton moves move ih =>
    rw [history_append, history_singleton, List.map_append]
    cases stores : (start.run moves).stores? move with
    | none => simpa using ih
    | some stored =>
      have new : stored.index ∉ (start.history moves).map Stored.index := by
        -- A send in the history is past the stage in which it stores.
        intro old
        obtain ⟨earlier, member, same⟩ := List.mem_map.1 old
        obtain ⟨stage, found, done⟩ := (mem_history_iff moves earlier).1 member
        obtain ⟨_, held, _, storing⟩ := stores?_eq_some_iff.1 stores
        rw [same, held] at found
        obtain ⟨-, rfl⟩ := Pending.mk.inj (Option.some.inj found)
        obtain ⟨id, rfl, _⟩ := storing?_eq_some_iff.1 storing
        exact done
      simpa [List.nodup_append] using ⟨ih, fun other member => by
        intro same
        exact new (same ▸ List.mem_map_of_mem member)⟩

/-! ### Answers -/

theorem outcome?_eq_some_iff {index : Nat} {outcome : Outcome} :
    s.outcome? index = some outcome ↔
      ∃ call, s.calls[index]? = some ⟨call, .answered outcome⟩ := by
  unfold outcome?
  split
  · next call given found => simp [found]
  · next other => simpa using fun call => other call outcome

theorem outcome?_congr {later : Interleaving} {index : Nat}
    (same : later.calls[index]? = s.calls[index]?) : later.outcome? index = s.outcome? index := by
  rw [outcome?, outcome?, same]

/-- An answer is final: no `move` changes an `outcome` that is there. -/
theorem outcome?_move_of_some {index : Nat} {outcome : Outcome}
    (answered : s.outcome? index = some outcome) (move : Move) :
    (s.move move).outcome? index = some outcome := by
  obtain ⟨call, found⟩ := outcome?_eq_some_iff.1 answered
  have kept : Stage.next call s.registry index (.answered outcome) move = .answered outcome := by
    cases move <;> simp [Stage.next, Stage.advance, Stage.timeOut, Stage.drop]
  exact outcome?_eq_some_iff.2 ⟨call, kept ▸ getElem?_move found move⟩

theorem outcome?_run_of_some {index : Nat} {outcome : Outcome}
    (answered : s.outcome? index = some outcome) (moves : List Move) :
    (s.run moves).outcome? index = some outcome := by
  induction moves generalizing s with
  | nil => exact answered
  | cons move moves ih => exact ih (outcome?_move_of_some answered move)

/-- Only `.advance index` answers the call at `index`, with what `Call.outcome` gives on the log of
its channel before the move. -/
theorem outcome_of_move (sound : s.Sound) {index : Nat} {call : Call} {stage : Stage}
    (found : s.calls[index]? = some ⟨call, stage⟩) (unanswered : s.outcome? index = none)
    {move : Move} {outcome : Outcome} (answered : (s.move move).outcome? index = some outcome) :
    move = .advance index ∧ outcome = call.outcome (s.registry.logOf call.channel).toList := by
  obtain ⟨other, after⟩ := outcome?_eq_some_iff.1 answered
  rw [getElem?_move found] at after
  obtain ⟨-, next⟩ := Pending.mk.inj (Option.some.inj after)
  have before (given : Outcome) : stage ≠ .answered given := by
    rintro rfl
    rw [outcome?_eq_some_iff.2 ⟨call, found⟩] at unanswered
    exact nomatch unanswered
  obtain ⟨moved, given⟩ := (Stage.next_eq_answered next).resolve_left (before outcome)
  exact ⟨moved, (Stage.outcome_of_advance (sound found) given).resolve_left (before outcome)⟩

/-- A call that is unanswered in `s` and answered after `moves` has its `.advance index` among
`moves`, and its `outcome` is what `Call.outcome` gives on the log before that move. -/
theorem exists_answering (sound : s.Sound) {moves : List Move} {index : Nat} {call : Call}
    {outcome : Outcome} (unanswered : s.outcome? index = none)
    (answered : (s.run moves).calls[index]? = some ⟨call, .answered outcome⟩) :
    ∃ before after, moves = before ++ .advance index :: after ∧
      outcome = call.outcome ((s.run before).registry.logOf call.channel).toList := by
  -- From the end of the run: the last move answers, or the call was answered before it.
  induction moves using List.reverseRecOn with
  | nil =>
    have given : s.outcome? index = some outcome := outcome?_eq_some_iff.2 ⟨call, answered⟩
    exact nomatch unanswered.symm.trans given
  | append_singleton moves move ih =>
    rw [run_append, run_cons, run_nil] at answered
    rcases of_getElem?_move answered with ⟨stage, found, next⟩ | ⟨_, _, named⟩
    · cases earlier : (s.run moves).outcome? index with
      | some given =>
        obtain ⟨other, held⟩ := outcome?_eq_some_iff.1 earlier
        obtain ⟨rfl, rfl⟩ := Pending.mk.inj (Option.some.inj (held.symm.trans found))
        have final := outcome?_move_of_some earlier move
        rw [outcome?_eq_some_iff.2 ⟨_, answered⟩] at final
        obtain rfl := Option.some.inj final
        obtain ⟨before, after, same, told⟩ := ih held
        exact ⟨before, after ++ [move], by simp [same], told⟩
      | none =>
        have told := outcome_of_move (sound_run sound moves) found earlier
          (outcome?_eq_some_iff.2 ⟨call, answered⟩)
        exact ⟨moves, [], by rw [told.1], told.2⟩
    · exact nomatch named

/-! ### Moves without a step -/

theorem outcome?_move_of_isQuiet {move : Move} (quiet : move.IsQuiet) (index : Nat) :
    (s.move move).outcome? index = s.outcome? index := by
  cases answered : (s.move move).outcome? index with
  | none =>
    cases before : s.outcome? index with
    | none => rfl
    | some outcome =>
      -- An answer does not go away.
      rw [outcome?_move_of_some before] at answered
      exact nomatch answered
  | some outcome =>
    obtain ⟨call, after⟩ := outcome?_eq_some_iff.1 answered
    symm
    rcases of_getElem?_move after with ⟨stage, earlier, next⟩ | ⟨_, _, named⟩
    · rcases Stage.next_eq_answered next.symm with rfl | ⟨moved, _⟩
      · exact outcome?_eq_some_iff.2 ⟨call, earlier⟩
      · exact absurd moved (quiet index)
    · exact nomatch named

theorem outcome?_run_of_isQuiet {moves : List Move} (quiet : ∀ move ∈ moves, move.IsQuiet)
    (index : Nat) : (s.run moves).outcome? index = s.outcome? index := by
  induction moves generalizing s with
  | nil => rfl
  | cons move moves ih =>
    rw [run_cons, ih fun other member => quiet other (List.mem_cons_of_mem _ member),
      outcome?_move_of_isQuiet (quiet move List.mem_cons_self)]

end Interleaving

end StateChannel
