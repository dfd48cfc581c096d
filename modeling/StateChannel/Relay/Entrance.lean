import StateChannel.Relay.Registry

/-!
# Channels asked for side by side

Any number of visitors ask for the log of a name at the same time. A visitor looks the name up, and
if it is not there creates its channel in a second step; the log that it is given it may keep and
append to as often as it likes. The steps of all visitors come in any order. When nothing comes
between them, the two steps of a visitor are `Registry.enter`.

## Main definitions

* `Visitor`: a party that asks for a log
* `Entrance`: the channels with all visitors
* `Entrance.Event`, `Entrance.step`, `Entrance.run`: what happens, and what comes of it
* `Entrance.record`: what is read off the events of a run, one by one
* `Entrance.added`, `Entrance.inserted`, `Entrance.appended`: the channels that an event adds, the
  name that it inserts, and the message that it appends

## Main results

* `Entrance.run_enter`: the two steps of a visitor with nothing in between
* `Entrance.record_append`: a run in two parts
-/

namespace StateChannel

/-- How far a visitor has come. -/
inductive Entering
  /-- The name is about to be looked up. -/
  | seeking
  /-- The name was not found, and its channel is about to be created. -/
  | missing
  /-- The log at `id` has been given out. -/
  | holding (id : LogId)
  deriving DecidableEq, Repr

/-- A visitor asks for the log of `name`. -/
structure Visitor where
  name : String
  stage : Entering
  deriving DecidableEq, Repr

/-- The channels with all visitors, in the order in which they came. -/
structure Entrance where
  registry : Registry
  visitors : List Visitor

namespace Entrance

/-- What happens; visitors are counted from zero, as `index`. -/
inductive Event
  /-- A visitor comes. -/
  | come (name : String)
  | lookUp (index : Nat)
  /-- The channel is added, unless the name has got one in the meantime. -/
  | insert (index : Nat)
  /-- The first half of an append to the log that a visitor was given. -/
  | push (index : Nat) (message : Json)
  /-- The second half. -/
  | wake (index : Nat)
  deriving Repr

/-- No channels, and no visitors. -/
def start : Entrance := ⟨.empty, []⟩

/-- What comes of an event; what is not the next step of a visitor changes nothing. -/
def step (s : Entrance) : Event → Entrance
  | .come name => { s with visitors := s.visitors ++ [⟨name, .seeking⟩] }
  | .lookUp index =>
    match s.visitors[index]? with
    | some ⟨name, .seeking⟩ =>
      match s.registry.find? name with
      | some id => { s with visitors := s.visitors.set index ⟨name, .holding id⟩ }
      | none => { s with visitors := s.visitors.set index ⟨name, .missing⟩ }
    | _ => s
  | .insert index =>
    match s.visitors[index]? with
    | some ⟨name, .missing⟩ =>
      let (registry, id) := s.registry.create name
      ⟨registry, s.visitors.set index ⟨name, .holding id⟩⟩
    | _ => s
  | .push index message =>
    match s.visitors[index]? with
    | some ⟨_, .holding id⟩ => { s with registry := s.registry.update id (·.push message) }
    | _ => s
  | .wake index =>
    match s.visitors[index]? with
    | some ⟨_, .holding id⟩ => { s with registry := s.registry.update id Log.wake }
    | _ => s

/-- What comes of events one after the other. -/
def run (s : Entrance) (events : List Event) : Entrance := events.foldl step s

/-! ### What is read off a run -/

variable {α : Type}

/-- What `read` gives for each event in the state in which it happens. -/
def record (read : Entrance → Event → List α) (s : Entrance) : List Event → List α
  | [] => []
  | event :: events => read s event ++ record read (s.step event) events

/-- The names of the channels that `event` adds. -/
def added (s : Entrance) (event : Event) : List String :=
  ((s.step event).registry.channels.drop s.registry.count).map Channel.name

/-- The name for which an event is an insertion, whether or not there is a channel already. -/
def inserted (s : Entrance) : Event → List String
  | .insert index =>
    match s.visitors[index]? with
    | some ⟨name, .missing⟩ => [name]
    | _ => []
  | _ => []

/-- The message that an event appends through a log that was given out for `name`. -/
def appended (name : String) (s : Entrance) : Event → List Json
  | .push index message =>
    match s.visitors[index]? with
    | some ⟨other, .holding _⟩ => if other = name then [message] else []
    | _ => []
  | _ => []

theorem run_append (s : Entrance) (events more : List Event) :
    s.run (events ++ more) = (s.run events).run more :=
  List.foldl_append

theorem record_append (read : Entrance → Event → List α) (s : Entrance) (events more : List Event) :
    s.record read (events ++ more) = s.record read events ++ (s.run events).record read more := by
  induction events generalizing s with
  | nil => rfl
  | cons event events ih =>
    simp only [List.cons_append, record, ih, List.append_assoc]
    rfl

/-- With nothing in between, a visitor who asks for `name` comes to hold what `Registry.enter`
gives. -/
theorem run_enter (s : Entrance) (name : String) :
    s.run [.come name, .lookUp s.visitors.length, .insert s.visitors.length] =
      ⟨(s.registry.enter name).1, s.visitors ++ [⟨name, .holding (s.registry.enter name).2⟩]⟩ := by
  cases found : s.registry.find? name <;>
    simp [run, step, Registry.enter, found]

end Entrance

end StateChannel
