import StateChannel.Client.PayloadChannel
import StateChannel.Relay.Traffic

/-!
# Clones at a relay

Clones of a channel poll the relay with the number that they share. A poll is one more call, and its
steps come between those of the others. When its answer comes back the shared number is set to the
number in the answer, whatever it has become in the meantime.

## Main definitions

* `RelayPoll`: how far a poll of a clone has come
* `Sharing`: a relay with its calls, the channel that the clones share, and the polls made so far
* `Sharing.Event`, `Sharing.step`, `Sharing.run`: what happens, and what comes of it

## Main results

* `Sharing.step_ask`: a poll takes the shared number along and leaves it as it is
-/

namespace StateChannel

/-- How far a poll of a clone has come. -/
inductive RelayPoll
  /-- It asks for what lies past `position`, and waits for the answer to the call of this
  number. -/
  | waiting (position call : Nat)
  /-- The shared number has been set and the payloads have been returned. -/
  | returned (payloads : List Bytes)
  /-- It has failed, or has been dropped. -/
  | failed
  deriving Repr

/-- A relay with the calls made so far, and a channel shared by clones. -/
structure Sharing where
  relay : Interleaving
  /-- The channel with the shared number of messages read. -/
  shared : PayloadChannel
  polls : List RelayPoll

/-- What happens at the relay, to the clones, or between them; the polls are counted from zero. -/
inductive Sharing.Event
  /-- Calls are made and take their steps. -/
  | calls (move : Move)
  /-- A clone begins to poll. -/
  | ask (start : UInt64)
  /-- The answer to the poll at `index` reaches its clone. -/
  | take (index : Nat)
  /-- The poll at `index` fails, or is dropped. -/
  | fail (index : Nat)
  deriving Repr

namespace Sharing

/-- No clone of `shared` polls yet. -/
def start (relay : Interleaving) (shared : PayloadChannel) : Sharing := ⟨relay, shared, []⟩

/-- What comes of an event. A poll asks for what lies past `shared.seq`. What cannot happen changes
nothing. -/
def step (s : Sharing) : Event → Sharing
  | .calls move => { s with relay := s.relay.move move }
  | .ask start =>
    if start.toNat = s.shared.seq then
      { s with
        relay := s.relay.move (.begin (.receive s.shared.channel start))
        polls := s.polls ++ [.waiting s.shared.seq s.relay.calls.length] }
    else s
  | .take index =>
    match s.polls[index]? with
    | some (.waiting _ call) =>
      match s.relay.outcome? call with
      | some (.received slice) =>
        let (shared, payloads) := s.shared.take slice
        { s with shared, polls := s.polls.set index (.returned payloads) }
      | _ => s
    | _ => s
  | .fail index =>
    match s.polls[index]? with
    | some (.waiting _ _) => { s with polls := s.polls.set index .failed }
    | _ => s

/-- What comes of events one after the other. -/
def run (s : Sharing) (events : List Event) : Sharing := events.foldl step s

theorem step_ask {s : Sharing} {start : UInt64} (here : start.toNat = s.shared.seq) :
    s.step (.ask start) =
      ⟨s.relay.move (.begin (.receive s.shared.channel start)), s.shared,
        s.polls ++ [.waiting s.shared.seq s.relay.calls.length]⟩ := by
  simp only [step, here, if_true]

end Sharing

end StateChannel
