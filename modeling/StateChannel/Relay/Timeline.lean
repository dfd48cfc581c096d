import StateChannel.Relay.Registry

/-!
# Channels in time

The channels of a relay together with a clock and the readers that wait. Time only passes when
it is told to. An append wakes the readers of its channel; they look at the log once all that
was to be done at that moment is done, in the order in which they were woken, and leave. A
reader that nobody wakes looks and leaves at its deadline.

## Main definitions

* `Timeline`: the state; readers are told apart by keys
* `Timeline.append`, `Timeline.seq`, `Timeline.receive`, `Timeline.drop`: what clients do
* `Timeline.resume`: lets the woken readers look
* `Timeline.pass`: lets time pass, and the readers leave whose deadline comes
* `Delivery`: what a reader is told, and when

## Main results

* `Timeline.logOf_append`, `Timeline.append_snd`: what an append does and answers
* `Timeline.mem_woken_append`: whom it wakes
* `Timeline.receive_of_told`, `Timeline.receive_of_waits`: a reader is told at once, or waits
* `Timeline.now_pass`: the clock shows the time passed
* `Timeline.registry_resume`: looking changes no channel
-/

namespace StateChannel

/-- A reader that waits. -/
structure Wait (κ : Type) where
  key : κ
  id : LogId
  reader : Reader
  deadline : Nat
  deriving Repr

/-- What a reader is told. -/
structure Delivery (κ : Type) where
  key : κ
  slice : Slice
  /-- When it is told. -/
  time : Nat
  /-- When it would have stopped waiting. -/
  deadline : Nat
  deriving Repr

/-- The reader waited as long as it may: until its `deadline`. -/
def Delivery.WaitedOut {κ : Type} (d : Delivery κ) : Prop := d.deadline ≤ d.time

instance {κ : Type} (d : Delivery κ) : Decidable d.WaitedOut :=
  inferInstanceAs (Decidable (d.deadline ≤ d.time))

/-- Channels with a clock, in milliseconds, and their readers. -/
structure Timeline (κ : Type) where
  registry : Registry
  now : Nat
  /-- The readers that wait, in the order of their calls. -/
  waits : List (Wait κ)
  /-- The readers that have been woken and have not looked yet, in the order of their waking. -/
  woken : List (Wait κ)

namespace Timeline

variable {κ : Type}

/-- No channels, at the beginning of time. -/
def empty : Timeline κ := ⟨.empty, 0, [], []⟩

/-- Appends `message` to the log of `channel` and wakes its readers; gives the new length of the
log. -/
def append (t : Timeline κ) (channel : String) (message : Json) : Timeline κ × Nat :=
  let (registry, id) := t.registry.enter channel
  let registry := registry.update id (·.append message)
  ({ t with
      registry
      waits := t.waits.filter fun w => w.id != id
      woken := t.woken ++ t.waits.filter fun w => w.id == id },
    (registry.log id).seq)

/-- The length of the log of `channel`, which is entered. -/
def seq (t : Timeline κ) (channel : String) : Timeline κ × Nat :=
  let (registry, id) := t.registry.enter channel
  ({ t with registry }, (registry.log id).seq)

/-- What the reader of `w` is told at `time`. -/
def deliver (t : Timeline κ) (time : Nat) (w : Wait κ) : Delivery κ :=
  ⟨w.key, w.reader.read (t.registry.log w.id), time, w.deadline⟩

/-- Starts a reader of `channel`: it is told at once what lies past `start`, or else waits, unless
its `timeout` is zero. -/
def receive (t : Timeline κ) (key : κ) (channel : String) (start timeout : Nat) :
    Timeline κ × Option (Delivery κ) :=
  let (registry, id) := t.registry.enter channel
  let log := registry.log id
  -- To subscribe first and look then misses no append in between.
  let reader := log.subscribe start
  let deadline := t.now + timeout
  match reader.check? log with
  | some slice => ({ t with registry }, some ⟨key, slice, t.now, deadline⟩)
  | none =>
    if timeout = 0 then ({ t with registry }, some ⟨key, reader.read log, t.now, deadline⟩)
    else ({ t with registry, waits := t.waits ++ [⟨key, id, reader, deadline⟩] }, none)

/-- Stops the readers that `isDropped` names where they wait. -/
def drop (t : Timeline κ) (isDropped : κ → Bool) : Timeline κ :=
  { t with
    waits := t.waits.filter fun w => !isDropped w.key
    woken := t.woken.filter fun w => !isDropped w.key }

/-- Lets the woken readers look and leave. -/
def resume (t : Timeline κ) : Timeline κ × List (Delivery κ) :=
  ({ t with woken := [] }, t.woken.map (t.deliver t.now))

/-- Lets `millis` pass. The readers whose deadline comes look and leave, the earlier deadline
first. -/
def pass (t : Timeline κ) (millis : Nat) : Timeline κ × List (Delivery κ) :=
  let now := t.now + millis
  -- The sort is stable: of equal deadlines the earlier call comes first.
  let due := (t.waits.filter fun w => w.deadline ≤ now).mergeSort fun v w => v.deadline ≤ w.deadline
  ({ t with now, waits := t.waits.filter fun w => ¬ w.deadline ≤ now },
    due.map fun w => t.deliver w.deadline w)

/-- How long the reader `key` still waits. -/
def remaining? [BEq κ] (t : Timeline κ) (key : κ) : Option Nat :=
  (t.waits.find? fun w => w.key == key).map fun w => w.deadline - t.now

/-- An append adds `message` to the log of `channel`, and to no other. -/
theorem logOf_append (t : Timeline κ) (channel : String) (message : Json) (name : String) :
    (t.append channel message).1.registry.logOf name =
      if name = channel then (t.registry.logOf name).append message else t.registry.logOf name := by
  rw [append, Registry.logOf_update (Registry.find?_enter t.registry channel), Registry.logOf_enter]

/-- An append answers the new length of its log. -/
theorem append_snd (t : Timeline κ) (channel : String) (message : Json) :
    (t.append channel message).2 = (t.registry.logOf channel).seq + 1 := by
  have inside := Registry.lt_count_of_find? (Registry.find?_enter t.registry channel)
  calc (t.append channel message).2
      = (((t.registry.enter channel).1.update (t.registry.enter channel).2 (·.append message)).log
          (t.registry.enter channel).2).seq := rfl
    _ = (((t.registry.enter channel).1.log (t.registry.enter channel).2).append message).seq := by
      rw [Registry.log_update_self inside]
    _ = (t.registry.logOf channel).seq + 1 := by rw [Log.seq_append, Registry.log_enter]

/-- An append wakes exactly the readers that wait on `channel`. -/
theorem mem_woken_append {t : Timeline κ} {channel : String} {message : Json} {w : Wait κ} :
    w ∈ (t.append channel message).1.woken ↔
      w ∈ t.woken ∨ w ∈ t.waits ∧ w.id = (t.registry.enter channel).2 := by
  simp [append]

/-- A reader past whose `start` something lies is told at once, and so is one whose `timeout` is
zero. -/
theorem receive_of_told {t : Timeline κ} {channel : String} {start timeout : Nat}
    (told : start < (t.registry.logOf channel).seq ∨ timeout = 0) (key : κ) :
    t.receive key channel start timeout =
      ({ t with registry := (t.registry.enter channel).1 },
        some ⟨key, (t.registry.logOf channel).slice start, t.now, t.now + timeout⟩) := by
  by_cases past : start < (t.registry.logOf channel).seq
  · simp [receive, Registry.log_enter, Reader.check?, Log.subscribe, past]
  · simp [receive, Registry.log_enter, Reader.check?, Log.subscribe, past, told.resolve_left past,
      Reader.read]

/-- A reader past whose `start` nothing lies waits, if its `timeout` is not zero. -/
theorem receive_of_waits {t : Timeline κ} {channel : String} {start timeout : Nat}
    (nothing : (t.registry.logOf channel).seq ≤ start) (long : 0 < timeout) (key : κ) :
    t.receive key channel start timeout =
      ({ t with
        registry := (t.registry.enter channel).1
        waits := t.waits ++ [⟨key, (t.registry.enter channel).2,
          (t.registry.logOf channel).subscribe start, t.now + timeout⟩] }, none) := by
  simp [receive, Registry.log_enter, Reader.check?, Log.subscribe, Nat.not_lt.2 nothing,
    Nat.ne_of_gt long]

@[simp]
theorem now_pass (t : Timeline κ) (millis : Nat) : (t.pass millis).1.now = t.now + millis := rfl

@[simp]
theorem registry_pass (t : Timeline κ) (millis : Nat) :
    (t.pass millis).1.registry = t.registry := rfl

@[simp]
theorem registry_resume (t : Timeline κ) : t.resume.1.registry = t.registry := rfl

end Timeline

end StateChannel
