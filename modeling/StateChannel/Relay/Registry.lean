import StateChannel.Relay.Log

/-!
# The channels of a relay

A channel exists from the first time it is named. Names are compared literally, and the log of
a name is never replaced. Looking a name up and creating its channel are two steps, between
which others may act; creating keeps a channel that is there already.

## Main definitions

* `Registry`: the channels in the order of their creation
* `Registry.find?`, `Registry.create`, `Registry.enter`: looking up, creating, and both
* `Registry.log`, `Registry.update`: the log of a channel

## Main results

* `Registry.find?_create`: a created channel is found
* `Registry.count_create_of_find?`: an existing channel is kept
* `Registry.logOf_update`, `Registry.logOf_enter`: what a step does to the log of each name
-/

namespace StateChannel

/-- A channel: its name and its log. -/
structure Channel where
  name : String
  log : Log

/-- The channels of a relay in the order of their creation. -/
structure Registry where
  channels : List Channel

/-- The place of a channel in its registry. -/
abbrev LogId := Nat

namespace Registry

/-- No channels. -/
def empty : Registry := ⟨[]⟩

/-- The number of channels created so far. -/
def count (r : Registry) : Nat := r.channels.length

/-- The place of the channel called `name`. -/
def find? (r : Registry) (name : String) : Option LogId :=
  r.channels.findIdx? (fun channel => channel.name == name)

/-- Adds an empty channel called `name`, unless there is one. -/
def create (r : Registry) (name : String) : Registry × LogId :=
  match r.find? name with
  | some id => (r, id)
  | none => (⟨r.channels ++ [⟨name, .empty⟩]⟩, r.count)

/-- The place of the channel called `name`, which is created when it is missing. -/
def enter (r : Registry) (name : String) : Registry × LogId :=
  match r.find? name with
  | some id => (r, id)
  | none => r.create name

/-- The log at the place `id`. -/
def log (r : Registry) (id : LogId) : Log := (r.channels[id]?.map Channel.log).getD .empty

/-- Changes the log at the place `id`. -/
def update (r : Registry) (id : LogId) (change : Log → Log) : Registry :=
  ⟨r.channels.modify id fun channel => { channel with log := change channel.log }⟩

/-- The log of `name`; a name without a channel has an empty one. -/
def logOf (r : Registry) (name : String) : Log :=
  match r.find? name with
  | some id => r.log id
  | none => .empty

theorem enter_eq_create (r : Registry) (name : String) : r.enter name = r.create name := by
  unfold enter create
  split <;> simp_all

theorem count_create_of_find? {r : Registry} {name : String} {id : LogId}
    (h : r.find? name = some id) : (r.create name).1.count = r.count := by
  simp [create, h]

theorem find?_create (r : Registry) (name : String) :
    (r.create name).1.find? name = some (r.create name).2 := by
  unfold create
  split
  · next id h => exact h
  · next h =>
    have none : r.channels.findIdx? (fun channel => channel.name == name) = none := h
    simp [find?, List.findIdx?_append, none, count]

/-! ### The view by names

What a step does to the log of each name. -/

theorem find?_update (r : Registry) (id : LogId) (change : Log → Log) (name : String) :
    (r.update id change).find? name = r.find? name := by
  have same (channels : List Channel) (i : Nat) :
      (channels.modify i fun channel => { channel with log := change channel.log }).findIdx?
          (fun channel => channel.name == name) =
        channels.findIdx? (fun channel => channel.name == name) := by
    induction channels generalizing i with
    | nil => cases i <;> rfl
    | cons channel channels ih =>
      cases i with
      | zero => simp [List.findIdx?_cons]
      | succ i => simp [List.findIdx?_cons, ih i]
  exact same r.channels id

theorem log_update_self {r : Registry} {id : LogId} (h : id < r.count) (change : Log → Log) :
    (r.update id change).log id = change (r.log id) := by
  have h : id < r.channels.length := h
  simp [update, log, h]

theorem log_update_of_ne {r : Registry} {id other : LogId} (h : other ≠ id) (change : Log → Log) :
    (r.update id change).log other = r.log other := by
  simp [update, log, List.getElem?_modify_ne _ _ (Ne.symm h)]

theorem lt_count_of_find? {r : Registry} {name : String} {id : LogId} (h : r.find? name = some id) :
    id < r.count :=
  (List.findIdx?_eq_some_iff_getElem.1 h).1

/-- The place `id` belongs to one name. -/
theorem eq_of_find? {r : Registry} {name other : String} {id : LogId}
    (h : r.find? name = some id) (h' : r.find? other = some id) : name = other := by
  obtain ⟨_, first, _⟩ := List.findIdx?_eq_some_iff_getElem.1 h
  obtain ⟨_, second, _⟩ := List.findIdx?_eq_some_iff_getElem.1 h'
  rw [← eq_of_beq first, ← eq_of_beq second]

/-- Changing the log of `name` leaves the logs of all others alone. -/
theorem logOf_update {r : Registry} {name : String} {id : LogId} (h : r.find? name = some id)
    (change : Log → Log) (other : String) :
    (r.update id change).logOf other =
      if other = name then change (r.logOf other) else r.logOf other := by
  unfold logOf
  rw [find?_update]
  by_cases same : other = name
  · rw [if_pos same, same, h]
    exact log_update_self (lt_count_of_find? h) change
  · rw [if_neg same]
    cases found : r.find? other with
    | none => rfl
    | some place =>
      refine log_update_of_ne ?_ change
      intro equal
      exact same (eq_of_find? (equal ▸ found) h)

theorem find?_enter (r : Registry) (name : String) :
    (r.enter name).1.find? name = some (r.enter name).2 := by
  rw [enter_eq_create]
  exact find?_create r name

/-- Entering `name` changes no log. -/
theorem logOf_enter (r : Registry) (name other : String) :
    (r.enter name).1.logOf other = r.logOf other := by
  rw [enter_eq_create]
  unfold create
  split
  · rfl
  · next h =>
    have missing : r.channels.findIdx? (fun channel => channel.name == name) = none := h
    unfold logOf find? log
    rw [List.findIdx?_append]
    cases found : r.channels.findIdx? (fun channel => channel.name == other) with
    | some place =>
      have inside : place < r.channels.length := (List.findIdx?_eq_some_iff_getElem.1 found).1
      simp [List.getElem?_append_left inside]
    | none =>
      by_cases same : name = other
      · simp [same]
      · simp [same]

theorem log_enter (r : Registry) (name : String) :
    (r.enter name).1.log (r.enter name).2 = r.logOf name := by
  rw [← logOf_enter r name name, logOf, find?_enter]

theorem count_update (r : Registry) (id : LogId) (change : Log → Log) :
    (r.update id change).count = r.count := by
  simp [update, count]

end Registry

end StateChannel
