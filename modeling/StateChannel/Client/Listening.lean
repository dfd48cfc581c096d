import StateChannel.Client.ReceiveLoop
import StateChannel.Relay.Traffic

/-!
# A receive loop at a relay

The loop polls while others make their calls: its request reaches the relay as one more call, whose
steps come between theirs, and the answer comes back some time after it has been given. A poll may
also fail, before the relay has it or after, or be given up; then nobody waits for its answer.

## Main definitions

* `Listening`: a relay with its calls, and a loop
* `Listening.Event`: what happens
* `Listening.step`, `Listening.run`: what comes of it

## Main results

* `Listening.step_ask`: a poll is a call from where the loop is
-/

namespace StateChannel

/-- A relay with the calls made so far, and a loop that polls it. -/
structure Listening where
  relay : Interleaving
  loop : ReceiveLoop
  /-- The call whose answer the loop waits for. -/
  asked : Option Nat

/-- What happens at the relay, to the loop, or between them. -/
inductive Listening.Event
  /-- Calls are made and take their steps. -/
  | calls (move : Move)
  /-- The poll of the loop reaches the relay, as a `receive` from `start`. -/
  | ask (start : UInt64)
  /-- The answer to the poll reaches the loop. -/
  | answer
  /-- The poll fails with `cause`. -/
  | fail (cause : ClientError)
  /-- The handler has taken a payload. -/
  | handled
  /-- The pause after a failure is over. -/
  | resumed
  /-- The loop is told to stop. -/
  | stop
  deriving Repr

namespace Listening

/-- A loop on `channel` is about to poll `relay`. -/
def start (relay : Interleaving) (channel : PayloadChannel) : Listening :=
  ⟨relay, .start channel, none⟩

/-- What comes of an event. A poll asks for what lies past `loop.channel.seq`. What cannot happen
changes nothing. -/
def step (s : Listening) : Event → Listening
  | .calls move => { s with relay := s.relay.move move }
  | .ask start =>
    if s.loop.phase = .polling ∧ s.asked = none ∧ start.toNat = s.loop.channel.seq then
      { s with
        relay := s.relay.move (.begin (.receive s.loop.channel.channel start))
        asked := some s.relay.calls.length }
    else s
  | .answer =>
    match s.asked.bind s.relay.outcome? with
    | some (.received slice) => { s with loop := s.loop.step (.answered slice), asked := none }
    | _ => s
  | .fail cause => { s with loop := s.loop.step (.failed cause), asked := none }
  | .handled => { s with loop := s.loop.step .handled }
  | .resumed => { s with loop := s.loop.step .resumed }
  | .stop => { s with loop := s.loop.step .stopped, asked := none }

/-- What comes of events one after the other. -/
def run (s : Listening) (events : List Event) : Listening := events.foldl step s

theorem step_ask {s : Listening} {start : UInt64} (polling : s.loop.phase = .polling)
    (idle : s.asked = none) (here : start.toNat = s.loop.channel.seq) :
    s.step (.ask start) =
      ⟨s.relay.move (.begin (.receive s.loop.channel.channel start)), s.loop,
        some s.relay.calls.length⟩ := by
  simp only [step, polling, idle, here, and_self, if_true]

end Listening

end StateChannel
