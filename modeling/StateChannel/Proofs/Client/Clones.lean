import StateChannel.Client.Clones
import StateChannel.Proofs.Client.Listening

/-!
# Clones leave nothing out

The clones of a channel set their shared number one after another, and a slow poll may set it back.
Still nothing is left out between them: a poll goes on from a number that was shared when it began,
so that all before it has been returned already, and what it returns itself reaches from there to
the number that it sets.

## Main definitions

* `SharedChannel.Tells`: a poll has returned the stretch in which a message lies
* `SharedChannel.Covers`: this holds of all messages from one place to another
* `SharedChannel.Keeps`: it holds up to the shared number, and up to where each poll goes on

## Main results

* `SharedChannel.onward_move`: messages stay in their places, and what has been returned stays so
* `SharedChannel.keeps_move`, `SharedChannel.keeps_run`: whatever the clones do, they leave nothing
  out
-/

namespace StateChannel

namespace SharedChannel

variable {s later : SharedChannel} {first last place : Nat}

/-- A poll of `s` has returned the payloads of a stretch of the log in which `place` lies. -/
def Tells (s : SharedChannel) (place : Nat) : Prop :=
  ∃ position reached, position ≤ place ∧ place < reached ∧ reached ≤ s.log.length ∧
    .returned (payloadsBetween s.log position reached) ∈ s.polls

/-- Each place of the log from `first` up to `last` is told by some poll of `s`. -/
def Covers (s : SharedChannel) (first last : Nat) : Prop :=
  ∀ place, first ≤ place → place < last → s.Tells place

/-- From `s` to `later` the log has grown, and what polls have returned is still so. -/
structure Onward (s later : SharedChannel) : Prop where
  log : s.log <+: later.log
  returned : ∀ {payloads : List Bytes},
    .returned payloads ∈ s.polls → .returned payloads ∈ later.polls

theorem Onward.trans {last : SharedChannel} (onward : s.Onward later)
    (further : later.Onward last) : s.Onward last :=
  ⟨onward.log.trans further.log, fun returned => further.returned (onward.returned returned)⟩

theorem Tells.mono (tells : s.Tells place) (onward : s.Onward later) : later.Tells place := by
  obtain ⟨position, reached, before, after, inside, returned⟩ := tells
  refine ⟨position, reached, before, after, Nat.le_trans inside onward.log.length_le, ?_⟩
  rw [payloadsBetween_of_grown onward.log inside]
  exact onward.returned returned

theorem Covers.mono (covers : s.Covers first last) (onward : s.Onward later) :
    later.Covers first last :=
  fun place begun before => (covers place begun before).mono onward

/-- Replacing a `poll` that has not returned by `next` keeps what other polls have returned. -/
theorem returned_mem_set {polls : List ClonePoll} {index : Nat} {poll next : ClonePoll}
    (found : polls[index]? = some poll) (way : ∀ payloads, poll ≠ .returned payloads)
    {payloads : List Bytes} (returned : .returned payloads ∈ polls) :
    .returned payloads ∈ polls.set index next := by
  obtain ⟨place, present⟩ := List.mem_iff_getElem?.1 returned
  have apart : index ≠ place := by
    rintro rfl
    exact way payloads (Option.some.inj (found.symm.trans present))
  exact List.mem_iff_getElem?.2 ⟨place, by rw [List.getElem?_set_ne apart, present]⟩

theorem onward_move (s : SharedChannel) (move : CloneMove) : s.Onward (s.move move) := by
  cases move with
  | append message => exact ⟨List.prefix_append _ _, id⟩
  | ask => exact ⟨List.prefix_rfl, List.mem_append_left _⟩
  | read index | take index | fail index =>
    simp only [move]
    split
    all_goals first
      | exact ⟨List.prefix_rfl, id⟩
      | next found => exact ⟨List.prefix_rfl, returned_mem_set found (by simp)⟩

theorem onward_run (s : SharedChannel) (moves : List CloneMove) : s.Onward (s.run moves) := by
  induction moves generalizing s with
  | nil => exact ⟨List.prefix_rfl, id⟩
  | cons move moves ih => exact (s.onward_move move).trans (ih _)

/-- Where a poll that has not returned goes on: everything from `first` up to its position is
covered, and its answer is read off a prefix of the log from there. -/
def GoesOn (s : SharedChannel) (first : Nat) : ClonePoll → Prop
  | .asked position => s.Covers first position
  | .answered slice => ∃ position log, log <+: s.log ∧ slice = Slice.ofLog log position ∧
      s.Covers first position
  | .returned _ | .failed => True

theorem GoesOn.mono {poll : ClonePoll} (goesOn : s.GoesOn first poll) (onward : s.Onward later) :
    later.GoesOn first poll := by
  cases poll with
  | asked position => exact Covers.mono goesOn onward
  | answered slice =>
    obtain ⟨position, log, begins, same, covers⟩ := goesOn
    exact ⟨position, log, begins.trans onward.log, same, covers.mono onward⟩
  | returned payloads | failed => trivial

/-- Nothing from `first` up to the shared `seq` is left out, nor up to where any poll goes on. -/
structure Keeps (s : SharedChannel) (first : Nat) : Prop where
  inside : s.seq ≤ s.log.length
  covers : s.Covers first s.seq
  polls : ∀ poll ∈ s.polls, s.GoesOn first poll

theorem keeps_start {log : List Json} (inside : first ≤ log.length) :
    (start log first).Keeps first where
  inside := inside
  covers _ begun before := absurd begun (Nat.not_le.2 before)
  polls _ member := nomatch member

/-- If everything up to `position` is covered, and the payloads of `log` from there are returned,
then everything up to the end of `log` is covered. -/
theorem Covers.take {log : List Json} {position : Nat} (covers : s.Covers first position)
    (begins : log <+: s.log)
    (returned : .returned (payloads (log.drop position)) ∈ s.polls) :
    s.Covers first log.length := by
  intro place begun before
  rcases Nat.lt_or_ge place position with early | late
  · exact covers place begun early
  · refine ⟨position, log.length, late, before, begins.length_le, ?_⟩
    rwa [payloadsBetween_of_grown begins (Nat.le_refl _), payloadsBetween_length]

/-- Replacing one poll by `next`, in a state that is `Onward`, keeps `Keeps` if `next` goes on from
what is covered. -/
theorem Keeps.set (keeps : s.Keeps first) (onward : s.Onward later) {index : Nat}
    {next : ClonePoll} (polls : later.polls = s.polls.set index next)
    (inside : later.seq ≤ later.log.length) (covers : later.Covers first later.seq)
    (goesOn : later.GoesOn first next) : later.Keeps first := by
  refine ⟨inside, covers, fun poll member => ?_⟩
  rw [polls] at member
  rcases List.mem_or_eq_of_mem_set member with old | rfl
  · exact (keeps.polls poll old).mono onward
  · exact goesOn

theorem keeps_move (keeps : s.Keeps first) (move : CloneMove) : (s.move move).Keeps first := by
  have onward := s.onward_move move
  cases move with
  | append message =>
    exact ⟨Nat.le_trans keeps.inside onward.log.length_le, keeps.covers.mono onward,
      fun poll member => (keeps.polls poll member).mono onward⟩
  | ask =>
    refine ⟨keeps.inside, keeps.covers.mono onward, fun poll member => ?_⟩
    rcases List.mem_append.1 member with old | new
    · exact (keeps.polls poll old).mono onward
    · obtain rfl := List.mem_singleton.1 new
      exact keeps.covers.mono onward
  | read index =>
    simp only [move] at onward ⊢
    split
    · next position found =>
      -- The answer is read off the log as it is now, and goes on where the poll was.
      have covers : s.Covers first position := keeps.polls _ (List.mem_of_getElem? found)
      simp only [found] at onward
      exact keeps.set onward rfl keeps.inside (keeps.covers.mono onward)
        ⟨position, s.log, List.prefix_rfl, rfl, covers.mono onward⟩
    · exact keeps
  | take index =>
    simp only [move] at onward ⊢
    split
    · next slice found =>
      obtain ⟨position, log, begins, rfl, covers⟩ := keeps.polls _ (List.mem_of_getElem? found)
      simp only [found] at onward
      -- The number in the answer is set, whether the shared one is before it or past it.
      have inside := (List.getElem?_eq_some_iff.1 found).1
      exact keeps.set onward rfl begins.length_le
        ((covers.mono onward).take begins (List.mem_set inside _)) trivial
    · exact keeps
  | fail index =>
    simp only [move] at onward ⊢
    split
    -- Whether the poll had been answered makes no difference.
    all_goals first
      | exact keeps
      | next found =>
        simp only [found] at onward
        exact keeps.set onward rfl keeps.inside (keeps.covers.mono onward) trivial

theorem keeps_run (keeps : s.Keeps first) (moves : List CloneMove) : (s.run moves).Keeps first := by
  induction moves generalizing s with
  | nil => exact keeps
  | cons move moves ih => exact ih (keeps_move keeps move)

end SharedChannel

end StateChannel
