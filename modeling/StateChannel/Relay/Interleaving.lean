import StateChannel.Relay.Call
import StateChannel.Relay.Registry

/-!
# Calls side by side

Calls are made at the same time, and their steps come in any order. A step is what no other
call can come between: looking a channel up, creating it, storing a message, waking the
readers, subscribing, comparing and deciding to wait, going on after a wait, and looking at
last. Handled one call after the other, the steps are those of `Timeline`.

## Main definitions

* `Stage`: how far a call has come
* `Stage.advance`: its next step
* `Interleaving`: the channels with the calls made so far
* `Move`, `Interleaving.move`, `Interleaving.run`: what happens, and what comes of it

## Main results

* `Interleaving.move_drop_registry`: a call that is dropped leaves the channels alone
* `Stage.advance_waiting`: a reader that nobody wakes stays where it is
-/

namespace StateChannel

/-- How far a call has come. -/
inductive Stage
  /-- Its channel is about to be looked up. -/
  | naming
  /-- Its channel was not found and is about to be created. -/
  | creating
  /-- The call holds the log `id` of its channel. -/
  | entered (id : LogId)
  /-- Its message is stored, and the readers are about to be woken. -/
  | stored (id : LogId)
  /-- The reader has subscribed and is about to compare. -/
  | subscribed (id : LogId) (reader : Reader)
  /-- The reader waits to be woken. -/
  | waiting (id : LogId) (reader : Reader)
  /-- The reader has been woken, or has waited long enough, and is about to look. -/
  | resuming (id : LogId) (reader : Reader)
  | answered (outcome : Outcome)
  /-- The call has been dropped where it waited. -/
  | dropped
  deriving Repr

/-- The next step of `call`. A reader that waits goes on only when it has been woken. -/
def Stage.advance (call : Call) (r : Registry) : Stage → Registry × Stage
  | .naming =>
    match r.find? call.channel with
    | some id => (r, .entered id)
    | none => (r, .creating)
  | .creating =>
    let (r, id) := r.create call.channel
    (r, .entered id)
  | .entered id =>
    match call with
    | .send _ message => (r.update id (·.push message), .stored id)
    | .getSeq _ => (r, .answered (.seq ⟨(r.log id).seq⟩))
    | .receive _ start => (r, .subscribed id ((r.log id).subscribe start.toNat))
  | .stored id => (r.update id Log.wake, .answered .sent)
  | .subscribed id reader =>
    match reader.check? (r.log id) with
    | some slice => (r, .answered (.received slice))
    | none => (r, .waiting id reader)
  | .waiting id reader =>
    if reader.IsWoken (r.log id) then (r, .resuming id reader) else (r, .waiting id reader)
  | .resuming id reader => (r, .answered (.received (reader.read (r.log id))))
  | .answered outcome => (r, .answered outcome)
  | .dropped => (r, .dropped)

/-- A reader that waits has waited long enough. -/
def Stage.timeOut : Stage → Stage
  | .waiting id reader => .resuming id reader
  | stage => stage

/-- A call is dropped; only a reader that waits can be. -/
def Stage.drop : Stage → Stage
  | .waiting _ _ => .dropped
  | stage => stage

theorem Stage.advance_waiting {call : Call} {r : Registry} {id : LogId} {reader : Reader}
    (h : ¬ reader.IsWoken (r.log id)) :
    Stage.advance call r (.waiting id reader) = (r, .waiting id reader) := by
  simp [advance, h]

/-- A call with its stage. -/
structure Pending where
  call : Call
  stage : Stage
  deriving Repr

/-- The channels with the calls made so far, in the order in which they were made. -/
structure Interleaving where
  registry : Registry
  calls : List Pending

/-- What happens to calls; they are counted from zero. -/
inductive Move
  | begin (call : Call)
  | advance (index : Nat)
  | timeOut (index : Nat)
  | drop (index : Nat)
  deriving Repr

namespace Interleaving

/-- No calls, and no channels. -/
def start : Interleaving := ⟨.empty, []⟩

/-- Changes the stage of the call at `index`. -/
def setStage (s : Interleaving) (index : Nat) (change : Stage → Stage) : Interleaving :=
  { s with calls := s.calls.modify index fun p => { p with stage := change p.stage } }

/-- What comes of a move; a call that has not been made does not move. -/
def move (s : Interleaving) : Move → Interleaving
  | .begin call => { s with calls := s.calls ++ [⟨call, .naming⟩] }
  | .advance index =>
    match s.calls[index]? with
    | some p =>
      let (registry, stage) := p.stage.advance p.call s.registry
      setStage { s with registry } index fun _ => stage
    | none => s
  | .timeOut index => s.setStage index Stage.timeOut
  | .drop index => s.setStage index Stage.drop

/-- What comes of moves one after the other. -/
def run (s : Interleaving) (moves : List Move) : Interleaving := moves.foldl move s

theorem move_drop_registry (s : Interleaving) (index : Nat) :
    (s.move (.drop index)).registry = s.registry := rfl

theorem move_timeOut_registry (s : Interleaving) (index : Nat) :
    (s.move (.timeOut index)).registry = s.registry := rfl

end Interleaving

end StateChannel
