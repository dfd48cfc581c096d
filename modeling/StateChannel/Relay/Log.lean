import StateChannel.Relay.Slice

/-!
# The log of a channel

Messages are appended and never removed. An append has two halves, storing the message and
waking the readers; between them other calls may act. A reader first subscribes, then compares
its position with the length of the log, and only then waits, so that it notices every waking
since its subscription.

## Main definitions

* `Log`: the messages, and how often the readers have been woken
* `Log.push`, `Log.wake`, `Log.append`: the two halves of an append, and both
* `Reader`: a subscribed reader
* `Reader.check?`, `Reader.IsWoken`, `Reader.read`: comparing, being woken, and the last look

## Main results

* `Log.toList_append`: an append adds its message at the end
* `Reader.isWoken_append`: an append wakes every reader that has subscribed
* `Reader.check?_eq_none_iff`: a reader waits exactly when nothing lies past its position
-/

namespace StateChannel

/-- The log of a channel. -/
structure Log where
  messages : Array Json
  /-- How often the readers have been woken. -/
  wakeups : Nat

/-- A reader that has subscribed to a log. -/
structure Reader where
  /-- How many messages it has seen already. -/
  start : Nat
  /-- How often the readers had been woken when it subscribed. -/
  since : Nat
  deriving DecidableEq, Repr

namespace Log

/-- A log without messages. -/
def empty : Log := ⟨#[], 0⟩

/-- The messages in the order of their appends. -/
def toList (log : Log) : List Json := log.messages.toList

/-- The number of messages. -/
def seq (log : Log) : Nat := log.messages.size

/-- Stores a message. -/
def push (log : Log) (message : Json) : Log := { log with messages := log.messages.push message }

/-- Wakes all readers. -/
def wake (log : Log) : Log := { log with wakeups := log.wakeups + 1 }

/-- Stores a message and wakes all readers. -/
def append (log : Log) (message : Json) : Log := (log.push message).wake

/-- What lies past the position `start`. -/
def slice (log : Log) (start : Nat) : Slice := Slice.ofLog log.toList start

/-- A new reader of `log` at the position `start`. -/
def subscribe (log : Log) (start : Nat) : Reader := ⟨start, log.wakeups⟩

@[simp]
theorem length_toList (log : Log) : log.toList.length = log.seq := by
  simp [toList, seq]

@[simp]
theorem toList_push (log : Log) (message : Json) :
    (log.push message).toList = log.toList ++ [message] := by
  simp [push, toList]

@[simp]
theorem toList_wake (log : Log) : log.wake.toList = log.toList := rfl

theorem toList_append (log : Log) (message : Json) :
    (log.append message).toList = log.toList ++ [message] := by
  simp [append]

theorem seq_append (log : Log) (message : Json) : (log.append message).seq = log.seq + 1 := by
  simp [append, push, wake, seq]

end Log

namespace Reader

/-- What lies past the position of `r`, if anything does. -/
def check? (r : Reader) (log : Log) : Option Slice :=
  if r.start < log.seq then some (log.slice r.start) else none

/-- The readers have been woken since `r` subscribed. -/
def IsWoken (r : Reader) (log : Log) : Prop := r.since < log.wakeups

instance (r : Reader) (log : Log) : Decidable (r.IsWoken log) :=
  inferInstanceAs (Decidable (r.since < log.wakeups))

/-- What lies past the position of `r` when it goes on. -/
def read (r : Reader) (log : Log) : Slice := log.slice r.start

theorem not_isWoken_subscribe (log : Log) (start : Nat) :
    ¬ (log.subscribe start).IsWoken log := Nat.lt_irrefl _

theorem isWoken_append {r : Reader} {log : Log} (h : r.since ≤ log.wakeups) (message : Json) :
    r.IsWoken (log.append message) := Nat.lt_succ_of_le h

theorem check?_eq_none_iff {r : Reader} {log : Log} : r.check? log = none ↔ log.seq ≤ r.start := by
  simp [check?]

end Reader

end StateChannel
