import StateChannel.Client.PayloadChannel

/-!
# Receive loops

A receive loop polls a channel, hands each payload to its handler, and polls again. After a
poll that fails it pauses and polls from the same position. It can be told to stop at any
moment: a poll or a pause is given up then, but payloads that have been received are still
handed over.

## Main definitions

* `ReceiveLoop`: the state of a loop, with what it has handed over
* `LoopEvent`: what happens to a loop
* `ReceiveLoop.step`, `ReceiveLoop.run`: what it does then
* `ReceiveLoop.poll`: one poll of a relay, with the handing over

## Main results

* `ReceiveLoop.step_failed`: a failed poll changes neither the position nor what was handed over
-/

namespace StateChannel

/-- What a loop is doing. -/
inductive LoopPhase
  | polling
  /-- It hands payloads over, of which `rest` are left. -/
  | handling (rest : List Bytes)
  /-- It waits after a failure. -/
  | pausing
  | ended
  deriving DecidableEq, Repr

/-- What happens to a loop. -/
inductive LoopEvent
  /-- The poll has been answered. -/
  | answered (slice : Slice)
  /-- The poll has failed. -/
  | failed (cause : ClientError)
  /-- The handler has taken a payload. -/
  | handled
  /-- The pause is over. -/
  | resumed
  /-- The loop is told to stop. -/
  | stopped
  deriving Repr

/-- A receive loop. -/
structure ReceiveLoop where
  channel : PayloadChannel
  /-- What the handler was given, in order. -/
  delivered : List Bytes
  phase : LoopPhase
  /-- It has been told to stop. -/
  isStopping : Bool
  deriving Repr

namespace ReceiveLoop

/-- A loop on `channel`, about to poll. -/
def start (channel : PayloadChannel) : ReceiveLoop := ⟨channel, [], .polling, false⟩

/-- Where a loop goes on with payloads to hand over. -/
def nextPhase (isStopping : Bool) : List Bytes → LoopPhase
  | [] => if isStopping then .ended else .polling
  | payload :: rest => .handling (payload :: rest)

/-- What the loop `l` does when `event` happens. What cannot happen in its phase changes
nothing. -/
def step (l : ReceiveLoop) (event : LoopEvent) : ReceiveLoop :=
  match l.phase, event with
  | .polling, .answered slice =>
    let (channel, received) := l.channel.take slice
    { l with channel, phase := nextPhase l.isStopping received }
  | .polling, .failed _ => { l with phase := .pausing }
  | .handling (payload :: rest), .handled =>
    { l with delivered := l.delivered ++ [payload], phase := nextPhase l.isStopping rest }
  | .pausing, .resumed => { l with phase := .polling }
  | .polling, .stopped => { l with phase := .ended, isStopping := true }
  | .pausing, .stopped => { l with phase := .ended, isStopping := true }
  -- What has been received is handed over before the loop ends.
  | .handling _, .stopped => { l with isStopping := true }
  | _, _ => l

/-- What a loop does in the course of events. -/
def run (l : ReceiveLoop) (events : List LoopEvent) : ReceiveLoop := events.foldl step l

/-- One poll of a relay through `client`: its answer is taken and handed over, or its failure is
waited out. -/
def poll (l : ReceiveLoop) (client : RelayClient σ) : StateM (Session σ) ReceiveLoop := do
  match ← (client.receive l.channel.channel l.channel.seq).run with
  | .ok slice =>
    return (l.step (.answered slice)).run
      ((payloads slice.messages).map fun _ => LoopEvent.handled)
  | .error e => return l.run [.failed e, .resumed]

theorem step_failed (l : ReceiveLoop) (cause : ClientError) :
    (l.step (.failed cause)).channel = l.channel ∧
      (l.step (.failed cause)).delivered = l.delivered := by
  unfold step
  split <;> simp_all

end ReceiveLoop

end StateChannel
