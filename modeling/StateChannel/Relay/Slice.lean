import StateChannel.Json.Decoder

/-!
# Answers about a channel

What a reader of a channel is told: the messages past its position and the length of the log, or the
length alone.

## Main definitions

* `Slice`, `Slice.ofLog`: the part of a log past a position
* `SeqAnswer`: the length of a log

## Main results

* `Slice.messages_ofLog_of_le`, `Slice.isEmpty_ofLog`: past the end there are no messages
-/

namespace StateChannel

/-- The messages of a channel past a position, and the number of all its messages. -/
structure Slice where
  messages : List Json
  seq : Nat
  deriving Repr

/-- The number of a channel's messages. -/
structure SeqAnswer where
  seq : Nat
  deriving DecidableEq, Repr

namespace Slice

/-- The part of a log past its first `start` messages. -/
def ofLog (log : List Json) (start : Nat) : Slice := ⟨log.drop start, log.length⟩

/-- No messages. -/
def isEmpty (s : Slice) : Bool := s.messages.isEmpty

/-- The written form. -/
def toJson (s : Slice) : Json :=
  Json.ofMembers [("messages", .array s.messages), ("seq", Json.ofCount s.seq)]

/-- Reads the written form. -/
def decoder : Decoder Slice :=
  Decoder.record "ReceiveResult"
    ((Fields.required "messages" (Decoder.list Decoder.any)).and (Fields.required "seq" Decoder.u64)
      |>.map fun (messages, seq) => ⟨messages, seq⟩)

theorem messages_ofLog_of_le {log : List Json} {start : Nat} (h : log.length ≤ start) :
    (ofLog log start).messages = [] := List.drop_eq_nil_of_le h

theorem isEmpty_ofLog {log : List Json} {start : Nat} :
    (ofLog log start).isEmpty = true ↔ log.length ≤ start := by
  simp [isEmpty, ofLog]

end Slice

namespace SeqAnswer

/-- The written form. -/
def toJson (s : SeqAnswer) : Json := Json.ofMembers [("seq", Json.ofCount s.seq)]

/-- Reads the written form. -/
def decoder : Decoder SeqAnswer :=
  Decoder.record "SeqResponse" ((Fields.required "seq" Decoder.u64).map SeqAnswer.mk)

end SeqAnswer

end StateChannel
