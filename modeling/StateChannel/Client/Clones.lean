import StateChannel.Client.PayloadChannel

/-!
# Clones of a channel

The clones of a channel share the number of messages read. Each of them may poll while others
do: a poll takes that number along, the relay reads its log at some later moment, and when the
answer arrives the shared number is set and the payloads are returned. In between, messages
are appended.

## Main definitions

* `ClonePoll`: how far a poll of a clone has come
* `SharedChannel`: the log of a channel, the shared number, and the polls made so far
* `CloneMove`, `SharedChannel.move`, `SharedChannel.run`: what happens, and what comes of it
* `SharedChannel.returned`: what all polls together have returned

## Main results

* `SharedChannel.move_fail_seq`: a poll that fails does not set the shared number
-/

namespace StateChannel

/-- How far a poll has come. -/
inductive ClonePoll
  /-- It is on its way to the relay, with the position `start`. -/
  | asked (start : Nat)
  /-- The relay has read its log, and the answer is on its way back. -/
  | answered (slice : Slice)
  /-- The shared number has been set and the payloads have been returned. -/
  | returned (payloads : List Bytes)
  /-- It has failed, or has been dropped. -/
  | failed
  deriving Repr

/-- What a poll has returned. -/
def ClonePoll.payloads : ClonePoll → List Bytes
  | .returned payloads => payloads
  | _ => []

/-- A channel shared by clones. -/
structure SharedChannel where
  log : List Json
  /-- The number of messages read, which the clones share. -/
  seq : Nat
  polls : List ClonePoll
  deriving Repr

/-- What happens to a shared channel; the polls are counted from zero. -/
inductive CloneMove
  /-- A `message` is appended at the relay. -/
  | append (message : Json)
  /-- A clone begins to poll. -/
  | ask
  /-- The relay reads its log for the poll at `index`. -/
  | read (index : Nat)
  /-- The poll at `index` takes its answer. -/
  | take (index : Nat)
  | fail (index : Nat)
  deriving Repr

namespace SharedChannel

/-- A channel with `log`, of which the clones have read `seq` messages. -/
def start (log : List Json) (seq : Nat) : SharedChannel := ⟨log, seq, []⟩

/-- What comes of a move; a poll only takes the step that is its next. -/
def move (s : SharedChannel) : CloneMove → SharedChannel
  | .append message => { s with log := s.log ++ [message] }
  | .ask => { s with polls := s.polls ++ [.asked s.seq] }
  | .read index =>
    match s.polls[index]? with
    | some (.asked position) =>
      { s with polls := s.polls.set index (.answered (Slice.ofLog s.log position)) }
    | _ => s
  | .take index =>
    match s.polls[index]? with
    | some (.answered slice) =>
      { s with
        seq := slice.seq
        polls := s.polls.set index (.returned (payloads slice.messages)) }
    | _ => s
  | .fail index =>
    match s.polls[index]? with
    | some (.asked _) => { s with polls := s.polls.set index .failed }
    | some (.answered _) => { s with polls := s.polls.set index .failed }
    | _ => s

/-- What comes of moves one after the other. -/
def run (s : SharedChannel) (moves : List CloneMove) : SharedChannel := moves.foldl move s

/-- What all polls together have returned. -/
def returned (s : SharedChannel) : List Bytes := s.polls.flatMap ClonePoll.payloads

theorem move_fail_seq (s : SharedChannel) (index : Nat) : (s.move (.fail index)).seq = s.seq := by
  simp only [move]
  split <;> rfl

end SharedChannel

end StateChannel
