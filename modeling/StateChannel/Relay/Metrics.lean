import StateChannel.Json.Basic

/-!
# Counters of a relay

What a relay counts about itself, in counters of 64 bits that wrap around.

## Main definitions

* `Metrics`: the counters, with one operation for each thing that is counted
* `Metrics.averageMillis`: the average time of a call
* `Metrics.toJson`: the written form

## Main results

* `Metrics.total_request`: a call counts once
-/

namespace StateChannel

/-- The counters. -/
structure Metrics where
  total : UInt64
  succeeded : UInt64
  failed : UInt64
  notifications : UInt64
  messagesSent : UInt64
  emptyReceives : UInt64
  /-- The time of all calls, in milliseconds. -/
  millis : UInt64
  /-- The number of calls in that time. -/
  timed : UInt64
  deriving DecidableEq, Repr

namespace Metrics

/-- Nothing has been counted. -/
def zero : Metrics := ⟨0, 0, 0, 0, 0, 0, 0, 0⟩

/-- Counts a call that has ended in `success` or not, after `millis`. -/
def request (m : Metrics) (success : Bool) (millis : UInt64) : Metrics :=
  { m with
    total := m.total + 1
    succeeded := if success then m.succeeded + 1 else m.succeeded
    failed := if success then m.failed else m.failed + 1
    millis := m.millis + millis
    timed := m.timed + 1 }

/-- Counts a call without an id. -/
def notification (m : Metrics) : Metrics := { m with notifications := m.notifications + 1 }

/-- Counts a message that was appended. -/
def messageSent (m : Metrics) : Metrics := { m with messagesSent := m.messagesSent + 1 }

/-- Counts a reader that was told no messages. -/
def emptyReceive (m : Metrics) : Metrics := { m with emptyReceives := m.emptyReceives + 1 }

/-- The average time of a call, zero before the first one. -/
def averageMillis (m : Metrics) : Binary64 := Binary64.quotient m.millis.toNat m.timed.toNat

/-- The written form. -/
def toJson (m : Metrics) : Json :=
  Json.ofMembers [
    ("requests", Json.ofMembers [
      ("total", Json.ofUInt64 m.total),
      ("success", Json.ofUInt64 m.succeeded),
      ("error", Json.ofUInt64 m.failed),
      ("notifications", Json.ofUInt64 m.notifications)]),
    ("channels", Json.ofMembers [
      ("messages_sent", Json.ofUInt64 m.messagesSent),
      ("empty_receives", Json.ofUInt64 m.emptyReceives)]),
    ("latency", Json.ofMembers [
      ("average_ms", .number (.float m.averageMillis))])]

theorem total_request (m : Metrics) (success : Bool) (millis : UInt64) :
    (m.request success millis).total = m.total + 1 := rfl

end Metrics

end StateChannel
