import StateChannel.Relay.Interleaving

/-!
# What has been sent

The messages that the sends of a run have stored, in the order in which they were stored, each
with its send. A history is read off the calls and their moves alone: no log is looked at.

## Main definitions

* `Stored`: a message with the send that stored it
* `Interleaving.stores?`, `Interleaving.history`: what one move stores, and what a run stores
* `Stored.onChannel`, `Stored.messagesOn`: the part of a history that belongs to one channel
* `Call.outcome`: what a call gives when the messages of its channel are all that counts

## Main results

* `Interleaving.run_append`, `Interleaving.history_append`: a run in two parts
* `Stored.length_messagesOn`: a channel has as many messages as sends
-/

namespace StateChannel

/-- What a call gives, made on its own on a channel with the given `messages`. -/
def Call.outcome (messages : List Json) : Call → Outcome
  | .send _ _ => .sent
  | .getSeq _ => .seq ⟨messages.length⟩
  | .receive _ start => .received (Slice.ofLog messages start.toNat)

/-- A message that has been stored. -/
structure Stored where
  /-- The number of the `send` that stored it; calls are counted from zero. -/
  index : Nat
  channel : String
  message : Json
  deriving Repr

namespace Stored

/-- The part of `history` that belongs to `channel`. -/
def onChannel (channel : String) (history : List Stored) : List Stored :=
  history.filter fun stored => stored.channel = channel

/-- The messages of `channel` in the order in which they were stored. -/
def messagesOn (channel : String) (history : List Stored) : List Json :=
  (onChannel channel history).map message

@[simp]
theorem onChannel_append (channel : String) (history later : List Stored) :
    onChannel channel (history ++ later) =
      onChannel channel history ++ onChannel channel later :=
  List.filter_append _ _

@[simp]
theorem messagesOn_append (channel : String) (history later : List Stored) :
    messagesOn channel (history ++ later) =
      messagesOn channel history ++ messagesOn channel later := by
  simp [messagesOn]

@[simp]
theorem length_messagesOn (channel : String) (history : List Stored) :
    (messagesOn channel history).length = (onChannel channel history).length :=
  List.length_map _

end Stored

/-- The message that the next step of `call` stores: only a `send` that holds its log stores. -/
def Stage.storing? (call : Call) : Stage → Option Json
  | .entered _ =>
    match call with
    | .send _ message => some message
    | _ => none
  | _ => none

namespace Interleaving

/-- What a move stores. -/
def stores? (s : Interleaving) : Move → Option Stored
  | .advance index =>
    s.calls[index]?.bind fun p =>
      (p.stage.storing? p.call).map fun message => ⟨index, p.call.channel, message⟩
  | _ => none

/-- What moves store one after the other. -/
def history (s : Interleaving) : List Move → List Stored
  | [] => []
  | move :: moves => (s.stores? move).toList ++ (s.move move).history moves

@[simp]
theorem run_nil (s : Interleaving) : s.run [] = s := rfl

@[simp]
theorem run_cons (s : Interleaving) (move : Move) (moves : List Move) :
    s.run (move :: moves) = (s.move move).run moves := rfl

theorem run_append (s : Interleaving) (moves later : List Move) :
    s.run (moves ++ later) = (s.run moves).run later :=
  List.foldl_append

theorem history_append (s : Interleaving) (moves later : List Move) :
    s.history (moves ++ later) = s.history moves ++ (s.run moves).history later := by
  induction moves generalizing s with
  | nil => rfl
  | cons move moves ih => simp [history, ih]

theorem history_singleton (s : Interleaving) (move : Move) :
    s.history [move] = (s.stores? move).toList := by
  simp [history]

end Interleaving

end StateChannel
