import StateChannel.Relay.Course

/-!
# Channels by their names

Channels in time as their users see them: every name has a log, which is empty as long as nobody
has appended to it, and a reader waits on a name. Where a channel is kept and when it was created
does not show.

## Main definitions

* `Standing`: a reader with the name of its channel
* `Board`: the logs of all names, a clock, and the readers
* `Board.append`, `Board.receive`, `Board.drop`, `Board.resumeWhere`, `Board.pass`: what happens
* `Board.step`, `Board.run`: the same for the events on a timeline
* `Registry.nameAt`, `Timeline.board`: the board of a timeline
-/

namespace StateChannel

/-- A reader that waits, with the name of its channel. -/
structure Standing (κ : Type) where
  key : κ
  channel : String
  reader : Reader
  deadline : Nat

/-- The logs of all names, with a clock and the readers. -/
structure Board (κ : Type) where
  log : String → Log
  now : Nat
  waits : List (Standing κ)
  woken : List (Standing κ)

namespace Board

variable {κ : Type}

/-- Appends `message` to the log of `channel` and wakes its readers; gives the new length of the
log. -/
def append (b : Board κ) (channel : String) (message : Json) : Board κ × Nat :=
  ({ b with
      log := fun name => if name = channel then (b.log name).append message else b.log name
      waits := b.waits.filter fun w => w.channel ≠ channel
      woken := b.woken ++ b.waits.filter fun w => w.channel = channel },
    (b.log channel).seq + 1)

/-- What the reader of `w` is told at `time`. -/
def deliver (b : Board κ) (time : Nat) (w : Standing κ) : Delivery κ :=
  ⟨w.key, w.reader.read (b.log w.channel), time, w.deadline⟩

/-- Starts a reader of `channel` from `start`: it is told something at once, or waits for
`timeout`. -/
def receive (b : Board κ) (key : κ) (channel : String) (start timeout : Nat) :
    Board κ × Option (Delivery κ) :=
  if start < (b.log channel).seq ∨ timeout = 0 then
    (b, some ⟨key, (b.log channel).slice start, b.now, b.now + timeout⟩)
  else
    ({ b with
        waits := b.waits ++
          [⟨key, channel, (b.log channel).subscribe start, b.now + timeout⟩] }, none)

/-- Takes the readers away that `isDropped` names. -/
def drop (b : Board κ) (isDropped : κ → Bool) : Board κ :=
  { b with
    waits := b.waits.filter fun w => !isDropped w.key
    woken := b.woken.filter fun w => !isDropped w.key }

/-- Lets the woken readers that `goes` names look and leave. -/
def resumeWhere (b : Board κ) (goes : κ → Bool) : Board κ × List (Delivery κ) :=
  ({ b with woken := b.woken.filter fun w => !goes w.key },
    (b.woken.filter fun w => goes w.key).map (b.deliver b.now))

/-- Lets `millis` pass: the readers whose deadline comes leave, the earlier deadline first. -/
def pass (b : Board κ) (millis : Nat) : Board κ × List (Delivery κ) :=
  let now := b.now + millis
  let due := (b.waits.filter fun w => w.deadline ≤ now).mergeSort fun v w => v.deadline ≤ w.deadline
  ({ b with now, waits := b.waits.filter fun w => ¬ w.deadline ≤ now },
    due.map fun w => b.deliver w.deadline w)

variable [DecidableEq κ]

/-- What comes of an event. -/
def step (b : Board (String × κ)) : Timeline.Event κ → Board (String × κ) × Timeline.Reply κ
  | .append channel message =>
    let (b, n) := b.append channel message
    (b, ⟨some n, []⟩)
  | .seq channel => (b, ⟨some (b.log channel).seq, []⟩)
  | .receive channel key start timeout =>
    let (b, told) := b.receive (channel, key) channel start timeout
    (b, ⟨none, told.toList⟩)
  | .drop channel key => (b.drop fun k => k = (channel, key), ⟨none, []⟩)
  | .resume channel key =>
    let (b, told) := b.resumeWhere fun k => k = (channel, key)
    (b, ⟨none, told⟩)
  | .pass millis =>
    let (b, woken) := b.resumeWhere fun _ => true
    let (b, due) := b.pass millis
    (b, ⟨none, woken ++ due⟩)

/-- What comes of events one after the other. -/
def run (b : Board (String × κ)) :
    List (Timeline.Event κ) → Board (String × κ) × List (Timeline.Event κ × Timeline.Reply κ)
  | [] => (b, [])
  | event :: events =>
    let (b, reply) := b.step event
    let (b, later) := b.run events
    (b, (event, reply) :: later)

end Board

/-- The name of the channel at the place `id`. -/
def Registry.nameAt (r : Registry) (id : LogId) : String :=
  (r.channels[id]?.map Channel.name).getD ""

/-- A reader with the name of its channel. -/
def Registry.standing {κ : Type} (r : Registry) (w : Wait κ) : Standing κ :=
  ⟨w.key, r.nameAt w.id, w.reader, w.deadline⟩

/-- The board of a timeline. -/
def Timeline.board {κ : Type} (t : Timeline κ) : Board κ :=
  ⟨t.registry.logOf, t.now, t.waits.map t.registry.standing, t.woken.map t.registry.standing⟩

end StateChannel
