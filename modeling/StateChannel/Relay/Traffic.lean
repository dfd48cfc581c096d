import StateChannel.Relay.History
import StateChannel.Relay.Http

/-!
# Requests side by side

A relay takes any number of bodies at the same time. A body asks for one thing or for a batch of
things; what needs a call makes one, with an id or as a notification, and every call takes its
steps among those of all others. Bodies that are dropped leave their calls where they wait.

## Main definitions

* `Part`: one thing that a body asks for, with the call made for it
* `Traffic`: all that has been asked, and all calls
* `Traffic.Event`, `Traffic.step`, `Traffic.run`: what happens, and what comes of it
* `Part.answer?`: the answer to a part, once there is one
* `Traffic.history`: the messages that the sends have stored

## Main results

* `Part.filterMap_made_number`: the calls of a body are numbered in order
-/

namespace StateChannel

/-- What a body asks for, one by one. -/
def Submission.entries : Submission → List Entry
  | .answered _ => []
  | .single entry => [entry]
  | .batch entries => entries

/-- The call that is made for an entry, if it is one that can be made. -/
def Entry.call? : Entry → Option Call
  | .refused _ => none
  | .call _ method params => (Call.route method params).toOption

/-- The outcome of the call at `index`, if it has been answered. -/
def Interleaving.outcome? (s : Interleaving) (index : Nat) : Option Outcome :=
  match s.calls[index]? with
  | some ⟨_, .answered outcome⟩ => some outcome
  | _ => none

/-- One thing that a body asks for. -/
structure Part where
  /-- The number of the body, counted from zero. -/
  body : Nat
  entry : Entry
  /-- The call made for the entry, with the number of that call among all. -/
  made : Option (Call × Nat)
  deriving Repr

namespace Part

/-- The parts of a body; `next` is the number of the next call. -/
def number (body next : Nat) : List Entry → List Part
  | [] => []
  | entry :: entries =>
    match entry.call? with
    | some call => ⟨body, entry, some (call, next)⟩ :: number body (next + 1) entries
    | none => ⟨body, entry, none⟩ :: number body next entries

/-- The answer to `part`, once there is one. What needs no call is answered at once, and a
notification is answered by nothing. -/
def answer? (part : Part) (s : Interleaving) : Option (Option Json) :=
  match part.entry with
  | .refused answer => some (some answer)
  | .call id method params =>
    match Call.route method params with
    | .error e => some (Entry.answer id (.error e))
    | .ok _ =>
      (part.made.bind fun call => s.outcome? call.2).map fun outcome =>
        Entry.answer id (.ok outcome)

theorem filterMap_made_number (body next : Nat) (entries : List Entry) :
    (number body next entries).filterMap made = (entries.filterMap Entry.call?).zipIdx next := by
  induction entries generalizing next with
  | nil => rfl
  | cons entry entries ih =>
    cases call : entry.call? with
    | none => simp [number, call, ih]
    | some c => simp [number, call, ih, List.zipIdx_cons]

end Part

/-- All that has been asked of a relay, and the calls made for it. -/
structure Traffic where
  config : Config
  interleaving : Interleaving
  /-- What the bodies ask for, in the order in which they came in. -/
  parts : List Part
  /-- The number of bodies. -/
  bodies : Nat

namespace Traffic

/-- What happens to a relay. Bodies and parts are counted from zero. -/
inductive Event
  | submit (request : HttpRequest)
  /-- The call of the part at `place` takes its next step. -/
  | advance (place : Nat)
  /-- The call of the part at `place` has waited long enough. -/
  | timeOut (place : Nat)
  /-- The calls of `body` are dropped. -/
  | abort (body : Nat)

/-- A relay that nothing has been asked of. -/
def start (config : Config) : Traffic := ⟨config, .start, [], 0⟩

/-- What `request` asks for, if it is one for calls and not too long. -/
def entries (config : Config) (request : HttpRequest) : List Entry :=
  if request.IsOverAnnounced config then []
  else match request.route with
    | .calls =>
      match Submission.ofBody config request with
      | .ok submission => submission.entries
      | .error _ => []
    | _ => []

/-- The number of the call of the part at `place`. -/
def callAt? (t : Traffic) (place : Nat) : Option Nat :=
  (t.parts[place]?.bind Part.made).map Prod.snd

/-- The numbers of the calls of `body`. -/
def callsOf (t : Traffic) (body : Nat) : List Nat :=
  ((t.parts.filter fun part => part.body = body).filterMap Part.made).map Prod.snd

/-- What an event does to the calls. -/
def moves (t : Traffic) : Event → List Move
  | .submit request => ((entries t.config request).filterMap Entry.call?).map Move.begin
  | .advance place => (t.callAt? place).toList.map Move.advance
  | .timeOut place => (t.callAt? place).toList.map Move.timeOut
  | .abort body => (t.callsOf body).map Move.drop

/-- What comes of an event. -/
def step (t : Traffic) (event : Event) : Traffic :=
  let after := { t with interleaving := t.interleaving.run (t.moves event) }
  match event with
  | .submit request =>
    { after with
      parts := t.parts ++
        Part.number t.bodies t.interleaving.calls.length (entries t.config request)
      bodies := t.bodies + 1 }
  | _ => after

/-- What comes of events one after the other. -/
def run (t : Traffic) (events : List Event) : Traffic := events.foldl step t

/-- The messages that are stored in the course of events. -/
def history (t : Traffic) : List Event → List Stored
  | [] => []
  | event :: events =>
    t.interleaving.history (t.moves event) ++ (t.step event).history events

/-- The log of a channel. -/
def log (t : Traffic) (channel : String) : Log := t.interleaving.registry.logOf channel

@[simp]
theorem interleaving_step (t : Traffic) (event : Event) :
    (t.step event).interleaving = t.interleaving.run (t.moves event) := by
  cases event <;> rfl

theorem run_append (t : Traffic) (events later : List Event) :
    t.run (events ++ later) = (t.run events).run later :=
  List.foldl_append

theorem run_concat (t : Traffic) (events : List Event) (event : Event) :
    t.run (events ++ [event]) = (t.run events).step event :=
  run_append t events [event]

theorem history_append (t : Traffic) (events later : List Event) :
    t.history (events ++ later) = t.history events ++ (t.run events).history later := by
  induction events generalizing t with
  | nil => rfl
  | cons event events ih =>
    simp only [List.cons_append, history, ih, List.append_assoc]
    rfl

end Traffic

end StateChannel
