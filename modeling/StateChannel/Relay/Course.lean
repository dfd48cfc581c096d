import StateChannel.Relay.Timeline

/-!
# Courses of events on channels in time

Clients append messages, ask for lengths, and start and drop readers, on any channels and in any
order. A reader that has been woken looks at its log when its turn comes. Turns come in any order
and between any other events, but time does not pass before everybody who has been woken has had
his turn.

## Main definitions

* `Timeline.Event`, `Timeline.step`, `Timeline.run`: what happens, and what comes of it
* `Timeline.Reply`: what an event gives
* `Timeline.Event.concerns`, `Timeline.seenFrom`: what there is to see from one channel
* `Timeline.toldTo`: what one reader is told
* `Timeline.sent`, `Timeline.elapsed`: the messages appended to a channel, and the time that passes
-/

namespace StateChannel

namespace Timeline

variable {κ : Type}

/-- What happens to channels in time. A reader is known by its `channel` and a `key`. -/
inductive Event (κ : Type)
  | append (channel : String) (message : Json)
  | seq (channel : String)
  | receive (channel : String) (key : κ) (start timeout : Nat)
  | drop (channel : String) (key : κ)
  /-- The turn of the reader `key` of `channel`, if it has been woken. -/
  | resume (channel : String) (key : κ)
  | pass (millis : Nat)
  deriving Repr

/-- What an event gives. -/
structure Reply (κ : Type) where
  /-- The length of a log, for those who ask for one. -/
  seq? : Option Nat
  /-- What readers are told, in the order in which they leave. -/
  told : List (Delivery (String × κ))
  deriving Repr

section Steps

variable [DecidableEq κ]

/-- Lets the reader `key` look and leave, if it has been woken. -/
def resumeOf (t : Timeline κ) (key : κ) : Timeline κ × List (Delivery κ) :=
  ({ t with woken := t.woken.filter fun w => w.key ≠ key },
    (t.woken.filter fun w => w.key = key).map (t.deliver t.now))

/-- What comes of an event. -/
def step (t : Timeline (String × κ)) : Event κ → Timeline (String × κ) × Reply κ
  | .append channel message =>
    let (t, n) := t.append channel message
    (t, ⟨some n, []⟩)
  | .seq channel =>
    let (t, n) := t.seq channel
    (t, ⟨some n, []⟩)
  | .receive channel key start timeout =>
    let (t, told) := t.receive (channel, key) channel start timeout
    (t, ⟨none, told.toList⟩)
  | .drop channel key => (t.drop fun k => k = (channel, key), ⟨none, []⟩)
  | .resume channel key =>
    let (t, told) := t.resumeOf (channel, key)
    (t, ⟨none, told⟩)
  | .pass millis =>
    -- Whoever has been woken looks before time passes.
    let (t, woken) := t.resume
    let (t, due) := t.pass millis
    (t, ⟨none, woken ++ due⟩)

/-- What comes of events one after the other, with all that they give. -/
def run (t : Timeline (String × κ)) :
    List (Event κ) → Timeline (String × κ) × List (Event κ × Reply κ)
  | [] => (t, [])
  | event :: events =>
    let (t, reply) := t.step event
    let (t, later) := t.run events
    (t, (event, reply) :: later)

/-- What `reader` is told in the course of `record`. -/
def toldTo (reader : String × κ) (record : List (Event κ × Reply κ)) :
    List (Delivery (String × κ)) :=
  (record.flatMap fun x => x.2.told).filter fun d => d.key = reader

theorem toldTo_append (reader : String × κ) (record later : List (Event κ × Reply κ)) :
    toldTo reader (record ++ later) = toldTo reader record ++ toldTo reader later := by
  simp [toldTo]

end Steps

/-- The event happens on `channel`, or time passes. -/
def Event.concerns (channel : String) : Event κ → Bool
  | .append c _ | .seq c | .receive c _ _ _ | .drop c _ | .resume c _ => c = channel
  | .pass _ => true

/-- What there is to see of `record` from `channel`: its events with what they give, and what its
readers are told when time passes. -/
def seenFrom (channel : String) (record : List (Event κ × Reply κ)) : List (Event κ × Reply κ) :=
  (record.filter fun x => x.1.concerns channel).map fun x =>
    (x.1, { x.2 with told := x.2.told.filter fun d => d.key.1 = channel })

/-- The messages that are appended to `channel`, in order. -/
def sent (channel : String) : List (Event κ) → List Json
  | [] => []
  | .append c message :: events =>
    if c = channel then message :: sent channel events else sent channel events
  | _ :: events => sent channel events

/-- The time that passes. -/
def elapsed : List (Event κ) → Nat
  | [] => 0
  | .pass millis :: events => millis + elapsed events
  | _ :: events => elapsed events

end Timeline

end StateChannel
