import Mathlib.Data.List.Induction
import StateChannel.Proofs.Relay.Steps
import StateChannel.Relay.Entrance

/-!
# Calls are visitors

A call looks its channel up and creates it when it is missing, as a visitor does, and then uses the
log that it was given: a send appends to it once, and a reader looks at it. So what holds of
visitors in any order holds of the channels of a relay, whatever calls are made.

## Main definitions

* `Interleaving.entering`: what the channels see of a move
* `Interleaving.Visits`: the calls are visitors of the same channels

## Main results

* `Interleaving.Visits.move`: this stays so with every move
* `Interleaving.exists_visits`: the channels of a run are those that come of visitors
-/

namespace StateChannel

/-- The events of the visitor `index` in the next step of its call. -/
def Stage.entering (call : Call) (index : Nat) : Stage → List Entrance.Event
  | .naming => [.lookUp index]
  | .creating => [.insert index]
  | .entered _ =>
    match call with
    | .send _ message => [.push index message]
    | _ => []
  | .stored _ => [.wake index]
  | _ => []

/-- How far the visitor of a call in this stage has come. That of a call which was answered or
dropped still holds its log. -/
def Stage.Holds (visit : Entering) : Stage → Prop
  | .naming => visit = .seeking
  | .creating => visit = .missing
  | .entered id | .stored id | .subscribed id _ | .waiting id _ | .resuming id _ =>
    visit = .holding id
  | .answered _ | .dropped => ∃ id, visit = .holding id

namespace Stage

theorem holds_timeOut {stage : Stage} {visit : Entering} (holds : stage.Holds visit) :
    stage.timeOut.Holds visit := by
  cases stage <;> exact holds

theorem holds_drop {stage : Stage} {visit : Entering} (holds : stage.Holds visit) :
    stage.drop.Holds visit := by
  cases stage with
  | waiting id reader => exact ⟨id, holds⟩
  | _ => exact holds

end Stage

namespace Interleaving

/-- The events of visitors in a move of the calls. -/
def entering (s : Interleaving) : Move → List Entrance.Event
  | .begin call => [.come call.channel]
  | .advance index => s.calls[index]?.elim [] fun p => p.stage.entering p.call index
  | .timeOut _ | .drop _ => []

/-- The calls of `s` are the visitors of `e`: the registry is the same, and the visitor at each
index seeks the channel of the call there and `Holds` with its stage. -/
structure Visits (s : Interleaving) (e : Entrance) : Prop where
  registry : e.registry = s.registry
  length : e.visitors.length = s.calls.length
  visitors : ∀ {index : Nat} {call : Call} {stage : Stage}, s.calls[index]? = some ⟨call, stage⟩ →
    ∃ visit, e.visitors[index]? = some ⟨call.channel, visit⟩ ∧ stage.Holds visit

variable {s : Interleaving} {e : Entrance} {index : Nat} {call : Call} {stage : Stage}

theorem visits_start : start.Visits .start where
  registry := rfl
  length := rfl
  visitors found := nomatch found

/-- If the visitor of the call at `index` comes to where the stage after its step `Holds`, the
calls are visitors again. -/
theorem Visits.set (visits : s.Visits e) (found : s.calls[index]? = some ⟨call, stage⟩)
    {visit : Entering} (holds : (stage.advance call s.registry).2.Holds visit) :
    (s.move (.advance index)).Visits
      ⟨(stage.advance call s.registry).1, e.visitors.set index ⟨call.channel, visit⟩⟩ where
  registry := by rw [move_advance found]; rfl
  length := by rw [length_calls_move, List.length_set]; exact visits.length
  visitors := by
    intro place other later there
    -- The visit that moves is the one that is set, and the others keep their stage.
    rcases of_getElem?_move there with ⟨before, earlier, rfl⟩ | ⟨_, begun, _⟩
    · by_cases same : index = place
      · subst same
        obtain ⟨rfl, rfl⟩ := Pending.mk.inj (Option.some.inj (found.symm.trans earlier))
        refine ⟨visit, List.getElem?_set_self ?_, by simpa [Stage.next] using holds⟩
        rw [visits.length]
        exact (List.getElem?_eq_some_iff.1 found).1
      · obtain ⟨old, present, stays⟩ := visits.visitors earlier
        exact ⟨old, by rwa [List.getElem?_set_ne same], by simpa [Stage.next, same] using stays⟩
    · cases begun

/-- The step of the call at `index` is the run of its visitor by `Stage.entering`. -/
theorem Visits.exists_run (visits : s.Visits e) (found : s.calls[index]? = some ⟨call, stage⟩) :
    ∃ visit, (stage.advance call s.registry).2.Holds visit ∧ e.run (stage.entering call index) =
      ⟨(stage.advance call s.registry).1, e.visitors.set index ⟨call.channel, visit⟩⟩ := by
  obtain ⟨visit, present, holds⟩ := visits.visitors found
  obtain ⟨registry, visitors⟩ := e
  obtain rfl : registry = s.registry := visits.registry
  -- Put where it is, a visitor makes no difference.
  have stays : visitors.set index ⟨call.channel, visit⟩ = visitors := by
    apply List.ext_getElem?
    intro place
    rw [List.getElem?_set]
    split
    · next same => rw [← same, if_pos (List.getElem?_eq_some_iff.1 present).1]; exact present.symm
    · rfl
  cases stage with
  | naming =>
    obtain rfl : visit = .seeking := holds
    cases known : s.registry.find? call.channel with
    | some id => exact ⟨.holding id, by simp [Stage.advance, known, Stage.Holds],
        by simp [Stage.advance, Stage.entering, Entrance.run, Entrance.step, present, known]⟩
    | none => exact ⟨.missing, by simp [Stage.advance, known, Stage.Holds],
        by simp [Stage.advance, Stage.entering, Entrance.run, Entrance.step, present, known]⟩
  | creating =>
    obtain rfl : visit = .missing := holds
    exact ⟨.holding (s.registry.create call.channel).2, rfl,
      by simp [Stage.advance, Stage.entering, Entrance.run, Entrance.step, present]⟩
  | entered id =>
    obtain rfl : visit = .holding id := holds
    cases call with
    | send channel message => exact ⟨.holding id, rfl,
        by simp [Stage.advance, Stage.entering, Entrance.run, Entrance.step, present, stays]⟩
    | getSeq channel => exact ⟨.holding id, ⟨id, rfl⟩, by rw [stays]; rfl⟩
    | receive channel position => exact ⟨.holding id, rfl, by rw [stays]; rfl⟩
  | stored id =>
    obtain rfl : visit = .holding id := holds
    exact ⟨.holding id, ⟨id, rfl⟩,
      by simp [Stage.advance, Stage.entering, Entrance.run, Entrance.step, present, stays]⟩
  | subscribed id reader =>
    obtain rfl : visit = .holding id := holds
    refine ⟨.holding id, ?_, ?_⟩ <;>
      cases checked : reader.check? (s.registry.log id) <;>
        simp [Stage.advance, Stage.entering, checked, Stage.Holds, stays, Entrance.run]
  | waiting id reader =>
    obtain rfl : visit = .holding id := holds
    refine ⟨.holding id, ?_, ?_⟩ <;>
      by_cases woken : reader.IsWoken (s.registry.log id) <;>
        simp [Stage.advance, Stage.entering, woken, Stage.Holds, stays, Entrance.run]
  | resuming id reader => exact ⟨visit, ⟨id, holds⟩, by rw [stays]; rfl⟩
  | answered outcome => exact ⟨visit, holds, by rw [stays]; rfl⟩
  | dropped => exact ⟨visit, holds, by rw [stays]; rfl⟩

/-- A `move` that begins no call, changes no channel and keeps `Holds` keeps `Visits`. -/
theorem Visits.stay (visits : s.Visits e) {move : Move}
    (length : (s.move move).calls.length = s.calls.length)
    (registry : (s.move move).registry = s.registry)
    (stays : ∀ (call : Call) (index : Nat) {stage : Stage} {visit : Entering},
      stage.Holds visit → (stage.next call s.registry index move).Holds visit) :
    (s.move move).Visits e where
  registry := visits.registry.trans registry.symm
  length := visits.length.trans length.symm
  visitors := by
    intro place call later there
    rcases of_getElem?_move there with ⟨before, earlier, rfl⟩ | ⟨new, -, -⟩
    · obtain ⟨visit, present, holds⟩ := visits.visitors earlier
      exact ⟨visit, present, stays call place holds⟩
    · have inside := (List.getElem?_eq_some_iff.1 there).1
      rw [length] at inside
      exact absurd inside (Nat.not_lt.2 (List.getElem?_eq_none_iff.1 new))

theorem Visits.move (visits : s.Visits e) (move : Move) :
    (s.move move).Visits (e.run (s.entering move)) := by
  cases move with
  | begin call =>
    refine ⟨visits.registry, ?_, fun {place other later} there => ?_⟩
    · simp [Interleaving.move, entering, Entrance.run, Entrance.step, visits.length]
    · show ∃ visit, (e.visitors ++ [⟨call.channel, .seeking⟩])[place]? = _ ∧ _
      rcases of_getElem?_move there with ⟨before, earlier, rfl⟩ | ⟨new, begun, rfl⟩
      · obtain ⟨visit, present, holds⟩ := visits.visitors earlier
        refine ⟨visit, ?_, holds⟩
        rw [List.getElem?_append_left (List.getElem?_eq_some_iff.1 present).1, present]
      · -- The call that has just begun is the last one, and so is its visit.
        obtain rfl := Move.begin.inj begun
        have inside := (List.getElem?_eq_some_iff.1 there).1
        have last : place = e.visitors.length := by
          have outside := List.getElem?_eq_none_iff.1 new
          simp only [Interleaving.move, List.length_append, List.length_singleton] at inside
          have := visits.length
          omega
        exact ⟨.seeking, by simp [last], rfl⟩
  | advance index =>
    cases found : s.calls[index]? with
    | none =>
      rw [move_advance_none found]
      simpa [entering, found, Entrance.run] using visits
    | some p =>
      have same : s.entering (.advance index) = p.stage.entering p.call index := by
        simp [entering, found]
      obtain ⟨visit, holds, run⟩ := visits.exists_run found
      rw [same, run]
      exact visits.set found holds
  | timeOut index =>
    refine visits.stay (length_calls_move s _) rfl fun call place {stage visit} holds => ?_
    simp only [Stage.next]
    split
    · exact Stage.holds_timeOut holds
    · exact holds
  | drop index =>
    refine visits.stay (length_calls_move s _) rfl fun call place {stage visit} holds => ?_
    simp only [Stage.next]
    split
    · exact Stage.holds_drop holds
    · exact holds

/-- **Calls are visitors.** For every run of `moves` there are `events` of visitors such that the
calls are the visitors of that run. -/
theorem exists_visits (moves : List Move) :
    ∃ events, (start.run moves).Visits (Entrance.start.run events) := by
  induction moves using List.reverseRecOn with
  | nil => exact ⟨[], visits_start⟩
  | append_singleton moves move ih =>
    obtain ⟨events, visits⟩ := ih
    refine ⟨events ++ (start.run moves).entering move, ?_⟩
    rw [run_append, Entrance.run_append]
    exact visits.move move

end Interleaving

end StateChannel
