import Mathlib.Data.Finset.Card
import StateChannel.Proofs.Relay.Steps
import StateChannel.Relay.Entrance

/-!
# One log for every name

A visitor who does not find a name creates its channel in a second step, and others may have done
so in the meantime. Whoever comes first adds the channel, all others are given the log that is
there, and so no log is lost and no message in it.

## Main definitions

* `Registry.names`: the names of the channels
* `Entrance.Sound`: no name has two channels, and who holds a log holds that of its name

## Main results

* `Entrance.registry_step`: the three things that an event does to the channels
* `Entrance.names_run`, `Entrance.mem_names_run`: which channels there are after a run
* `Entrance.toList_run`: a log holds what was appended to it
* `Entrance.one_log_per_name`: what callers are given, and what becomes of it
-/

namespace StateChannel

namespace Registry

/-- The names of the channels of `r` in the order of their creation. -/
def names (r : Registry) : List String := r.channels.map Channel.name

@[simp]
theorem length_names (r : Registry) : r.names.length = r.count := List.length_map _

theorem find?_eq_none_iff {r : Registry} {name : String} :
    r.find? name = none ↔ name ∉ r.names := by
  simp [find?, names, List.findIdx?_eq_none_iff]

theorem mem_names_of_find? {r : Registry} {name : String} {id : LogId}
    (found : r.find? name = some id) : name ∈ r.names := by
  by_contra missing
  rw [find?_eq_none_iff.2 missing] at found
  exact nomatch found

@[simp]
theorem names_update (r : Registry) (id : LogId) (change : Log → Log) :
    (r.update id change).names = r.names := by
  apply List.ext_getElem?
  intro place
  simp only [names, update, List.getElem?_map, List.getElem?_modify]
  cases r.channels[place]? with
  | none => rfl
  | some channel => by_cases same : id = place <;> simp [same]

theorem names_create (r : Registry) (name : String) :
    (r.create name).1.names = if name ∈ r.names then r.names else r.names ++ [name] := by
  unfold create
  cases found : r.find? name with
  | some id => rw [if_pos (mem_names_of_find? found)]
  | none =>
    rw [if_neg (find?_eq_none_iff.1 found)]
    simp [names]

end Registry

namespace Entrance

variable {s : Entrance}

/-! ### One event -/

/-- What an `event` does to the registry: nothing, an insertion of `name`, or a `change` to the log
`id` by a visitor that is `.holding id`. In each case `inserted` and `appended` tell which. -/
theorem registry_step (s : Entrance) (event : Event) :
    ((s.step event).registry = s.registry ∧ inserted s event = [] ∧
      ∀ name, appended name s event = []) ∨
    (∃ name, (s.step event).registry = (s.registry.create name).1 ∧ inserted s event = [name] ∧
      ∀ other, appended other s event = []) ∨
    ∃ (index : Nat) (name : String) (id : LogId) (change : Log → Log) (messages : List Json),
      s.visitors[index]? = some ⟨name, .holding id⟩ ∧
      (s.step event).registry = s.registry.update id change ∧ inserted s event = [] ∧
      (∀ log, (change log).toList = log.toList ++ messages) ∧
      ∀ other, appended other s event = if name = other then messages else [] := by
  -- An event changes the registry only if the visitor is at the stage for it; that case is named.
  cases event with
  | come name => exact .inl ⟨rfl, rfl, fun _ => rfl⟩
  | lookUp index =>
    left
    rcases found : s.visitors[index]? with _ | ⟨name, _ | _ | id⟩
    case lookUp.some.seeking =>
      cases known : s.registry.find? name <;> simp [step, inserted, appended, found, known]
    all_goals simp [step, inserted, appended, found]
  | insert index =>
    rcases found : s.visitors[index]? with _ | ⟨name, _ | _ | id⟩
    case insert.some.missing =>
      exact .inr (.inl ⟨name, by simp [step, found], by simp [inserted, found], fun _ => rfl⟩)
    all_goals exact .inl (by simp [step, inserted, appended, found])
  | push index message =>
    rcases found : s.visitors[index]? with _ | ⟨name, _ | _ | id⟩
    case push.some.holding =>
      exact .inr (.inr ⟨index, name, id, (·.push message), [message], found, by simp [step, found],
        rfl, fun log => log.toList_push message, fun other => by simp [appended, found]⟩)
    all_goals exact .inl (by simp [step, inserted, appended, found])
  | wake index =>
    rcases found : s.visitors[index]? with _ | ⟨name, _ | _ | id⟩
    case wake.some.holding =>
      exact .inr (.inr ⟨index, name, id, Log.wake, [], found, by simp [step, found], rfl,
        fun log => by simp, fun other => by simp [appended]⟩)
    all_goals exact .inl (by simp [step, inserted, appended, found])

/-- What an `event` does to the visitors: nothing, a new one that is `.seeking`, or a visitor that
holds no log yet comes further; if it comes to be `.holding id`, then `id` is the place of its
name. -/
theorem visitors_step (s : Entrance) (event : Event) :
    (s.step event).visitors = s.visitors ∨
    (∃ name, (s.step event).visitors = s.visitors ++ [⟨name, .seeking⟩]) ∨
    ∃ (index : Nat) (name : String) (earlier later : Entering),
      s.visitors[index]? = some ⟨name, earlier⟩ ∧ (∀ id, earlier ≠ .holding id) ∧
      (s.step event).visitors = s.visitors.set index ⟨name, later⟩ ∧
      ∀ id, later = .holding id → (s.step event).registry.find? name = some id := by
  cases event with
  | come name => exact .inr (.inl ⟨name, rfl⟩)
  | lookUp index =>
    rcases found : s.visitors[index]? with _ | ⟨name, _ | _ | id⟩
    case lookUp.some.seeking =>
      refine .inr (.inr ⟨index, name, .seeking, ?_⟩)
      -- A name that is found ends the search, and one that is not is missing from now on.
      cases known : s.registry.find? name with
      | none => exact ⟨.missing, found, by simp, by simp [step, found, known], by simp⟩
      | some id =>
        exact ⟨.holding id, found, by simp, by simp [step, found, known],
          by simp [step, found, known]⟩
    all_goals exact .inl (by simp [step, found])
  | insert index =>
    rcases found : s.visitors[index]? with _ | ⟨name, _ | _ | id⟩
    case insert.some.missing =>
      exact .inr (.inr ⟨index, name, .missing, .holding (s.registry.create name).2, found, by simp,
        by simp [step, found], by simp [step, found, Registry.find?_create]⟩)
    all_goals exact .inl (by simp [step, found])
  | push index message =>
    left
    rcases found : s.visitors[index]? with _ | ⟨name, _ | _ | id⟩ <;> simp [step, found]
  | wake index =>
    left
    rcases found : s.visitors[index]? with _ | ⟨name, _ | _ | id⟩ <;> simp [step, found]

variable {event : Event} {index : Nat} {name : String} {id : LogId}

/-- A visitor that is `.holding id` stays so, whatever the `event`. -/
theorem holding_step (holds : s.visitors[index]? = some ⟨name, .holding id⟩) (event : Event) :
    (s.step event).visitors[index]? = some ⟨name, .holding id⟩ := by
  rcases s.visitors_step event with
    same | ⟨other, more⟩ | ⟨place, other, earlier, later, found, none, set, -⟩
  · rw [same, holds]
  · rw [more, List.getElem?_append_left (List.getElem?_eq_some_iff.1 holds).1, holds]
  · have apart : place ≠ index := by
      rintro rfl
      rw [holds] at found
      exact none id (Visitor.mk.inj (Option.some.inj found)).2.symm
    rw [set, List.getElem?_set_ne apart, holds]

/-- A visitor that is `.holding id` after an `event` was so before, or `id` is the place of its
name. -/
theorem holding_of_step
    (holds : (s.step event).visitors[index]? = some ⟨name, .holding id⟩) :
    s.visitors[index]? = some ⟨name, .holding id⟩ ∨
      (s.step event).registry.find? name = some id := by
  -- The visitor stayed as it was, has just come, or was moved by this event.
  rcases s.visitors_step event with
    same | ⟨other, more⟩ | ⟨place, other, earlier, later, found, -, set, given⟩
  · exact .inl (same ▸ holds)
  · left
    rw [more, List.getElem?_append] at holds
    split at holds
    · exact holds
    · -- The one who has just come holds nothing.
      have new := List.mem_of_getElem? holds
      simp at new
  · rw [set] at holds
    by_cases same : place = index
    · subst same
      rw [List.getElem?_set_self (List.getElem?_eq_some_iff.1 found).1] at holds
      obtain ⟨rfl, rfl⟩ := Visitor.mk.inj (Option.some.inj holds)
      exact .inr (given id rfl)
    · rw [List.getElem?_set_ne same] at holds
      exact .inl holds

/-- An `event` adds the names `added` behind those that are there. -/
theorem names_step (s : Entrance) (event : Event) :
    (s.step event).registry.names = s.registry.names ++ added s event := by
  have behind : s.registry.names <+: (s.step event).registry.names := by
    rcases s.registry_step event with
      ⟨same, -⟩ | ⟨name, created, -⟩ | ⟨_, _, id, change, _, _, changed, -⟩
    · rw [same]
    · rw [created, Registry.names_create]
      split
      · exact List.prefix_refl _
      · exact List.prefix_append _ _
    · rw [changed, Registry.names_update]
  obtain ⟨more, split⟩ := behind
  rw [added, List.map_drop]
  show _ = _ ++ (s.step event).registry.names.drop _
  rw [← split, ← Registry.length_names, List.drop_left]

/-- The names `added` are the names `inserted` that have no channel yet. -/
theorem added_eq (s : Entrance) (event : Event) :
    added s event = (inserted s event).filter (· ∉ s.registry.names) := by
  suffices joined : s.registry.names ++ added s event =
      s.registry.names ++ (inserted s event).filter (· ∉ s.registry.names) from
    List.append_cancel_left joined
  rw [← names_step]
  rcases s.registry_step event with
    ⟨same, none, -⟩ | ⟨name, created, one, -⟩ | ⟨_, _, id, change, _, _, changed, none, -⟩
  · rw [same, none]; simp
  · rw [created, one, Registry.names_create]
    split <;> simp_all
  · rw [changed, none, Registry.names_update]; simp

/-- No name has two channels, and a visitor that is `.holding id` has asked for the name whose
place `id` is. -/
structure Sound (s : Entrance) : Prop where
  nodup : s.registry.names.Nodup
  holding : ∀ {index : Nat} {name : String} {id : LogId},
    s.visitors[index]? = some ⟨name, .holding id⟩ → s.registry.find? name = some id

theorem sound_start : start.Sound where
  nodup := List.nodup_nil
  holding found := nomatch found

theorem find?_step (found : s.registry.find? name = some id) (event : Event) :
    (s.step event).registry.find? name = some id := by
  rcases s.registry_step event with
    ⟨same, -⟩ | ⟨other, created, -⟩ | ⟨_, _, place, change, _, _, changed, -⟩
  · rw [same, found]
  · rw [created]
    exact Registry.find?_create_of_find? found other
  · rw [changed, Registry.find?_update, found]

theorem nodup_inserted (s : Entrance) (event : Event) : (inserted s event).Nodup := by
  rcases s.registry_step event with
    ⟨-, none, -⟩ | ⟨name, -, one, -⟩ | ⟨_, _, _, _, _, _, _, none, -⟩
  · simp [none]
  · simp [one]
  · simp [none]

theorem Sound.step (sound : s.Sound) (event : Event) : (s.step event).Sound where
  nodup := by
    rw [names_step, added_eq, List.nodup_append]
    -- What is added was not there.
    refine ⟨sound.nodup, (nodup_inserted s event).filter _, ?_⟩
    rintro name inside _ new rfl
    simp [inside] at new
  holding holds := by
    rcases holding_of_step holds with earlier | given
    · exact find?_step (sound.holding earlier) event
    · exact given

/-- An `event` appends to the log of `name` what `appended name` says. -/
theorem toList_step (sound : s.Sound) (event : Event) (name : String) :
    ((s.step event).registry.logOf name).toList =
      (s.registry.logOf name).toList ++ appended name s event := by
  rcases s.registry_step event with
    ⟨same, -, none⟩ | ⟨other, created, -, none⟩ |
      ⟨index, other, id, change, messages, holds, changed, -, holdsMore, given⟩
  · rw [same, none, List.append_nil]
  · rw [created, Registry.logOf_create, none, List.append_nil]
  · rw [changed, Registry.logOf_update (sound.holding holds), given]
    by_cases same : name = other
    · rw [if_pos same, if_pos same.symm, holdsMore]
    · rw [if_neg same, if_neg (Ne.symm same), List.append_nil]

/-! ### Runs -/

theorem sound_run (sound : s.Sound) (events : List Event) : (s.run events).Sound := by
  induction events generalizing s with
  | nil => exact sound
  | cons event events ih => exact ih (sound.step event)

theorem holding_run (holds : s.visitors[index]? = some ⟨name, .holding id⟩) (events : List Event) :
    (s.run events).visitors[index]? = some ⟨name, .holding id⟩ := by
  induction events generalizing s with
  | nil => exact holds
  | cons event events ih => exact ih (holding_step holds event)

/-- After a run the names are those from before, and then those that were `added`. -/
theorem names_run (s : Entrance) (events : List Event) :
    (s.run events).registry.names = s.registry.names ++ s.record added events := by
  induction events generalizing s with
  | nil => exact (List.append_nil _).symm
  | cons event events ih =>
    calc ((s.step event).run events).registry.names
        = (s.step event).registry.names ++ (s.step event).record added events := ih _
      _ = s.registry.names ++ s.record added (event :: events) := by
        rw [names_step, List.append_assoc]; rfl

/-- After a run a `name` has a channel if it had one before or has been `inserted`. -/
theorem mem_names_run (s : Entrance) (events : List Event) (name : String) :
    name ∈ (s.run events).registry.names ↔
      name ∈ s.registry.names ∨ name ∈ s.record inserted events := by
  induction events generalizing s with
  | nil => simp [run, record]
  | cons event events ih =>
    have one : name ∈ (s.step event).registry.names ↔
        name ∈ s.registry.names ∨ name ∈ inserted s event := by
      rw [names_step, added_eq, List.mem_append, List.mem_filter, decide_eq_true_eq]
      tauto
    calc name ∈ ((s.step event).run events).registry.names
        ↔ name ∈ (s.step event).registry.names ∨
            name ∈ (s.step event).record inserted events := ih _
      _ ↔ name ∈ s.registry.names ∨ name ∈ s.record inserted (event :: events) := by
        rw [one, record, List.mem_append, or_assoc]

/-- After a run the log of `name` holds what it held before, and then what was `appended` to it. -/
theorem toList_run (sound : s.Sound) (events : List Event) (name : String) :
    ((s.run events).registry.logOf name).toList =
      (s.registry.logOf name).toList ++ s.record (appended name) events := by
  induction events generalizing s with
  | nil => exact (List.append_nil _).symm
  | cons event events ih =>
    calc (((s.step event).run events).registry.logOf name).toList
        = ((s.step event).registry.logOf name).toList ++
            (s.step event).record (appended name) events := ih (sound.step event)
      _ = (s.registry.logOf name).toList ++ s.record (appended name) (event :: events) := by
        rw [toList_step sound, List.append_assoc]; rfl

/-- From the `start`, the names are those that were `added`. -/
theorem names_run_start (events : List Event) :
    (start.run events).registry.names = start.record added events :=
  names_run start events

theorem mem_added_iff (events : List Event) (name : String) :
    name ∈ start.record added events ↔ name ∈ start.record inserted events := by
  rw [← names_run_start, mem_names_run]
  exact or_iff_right List.not_mem_nil

/-- From the `start`, there are as many channels as different names were `inserted`. -/
theorem count_run (events : List Event) :
    (start.run events).registry.count = (start.record inserted events).toFinset.card := by
  have same : (start.record added events).toFinset = (start.record inserted events).toFinset := by
    ext name
    rw [List.mem_toFinset, List.mem_toFinset, mem_added_iff]
  rw [← Registry.length_names, ← same, ← names_run_start,
    List.toFinset_card_of_nodup (sound_run sound_start events).nodup]

/-- The log that a visitor holds is that of its `name`. -/
theorem log_of_holding (sound : s.Sound) (holds : s.visitors[index]? = some ⟨name, .holding id⟩) :
    s.registry.log id = s.registry.logOf name :=
  (Registry.logOf_of_find? (sound.holding holds)).symm

/-- **One log for every name.** Any number of visitors look names up, create channels and append to
the logs that they hold, and all these `events` come in any order. At every moment two visitors
that hold logs `id` and `place` have `id = place` if and only if they asked for the same name. A
name that was `inserted`, however often, was `added` once, and any other never. The log that a
visitor of `name` holds contains what was `appended` to `name`, in order and nothing else; after
any `more` events the visitor holds the same log, it is still the one that `name` finds, and it
keeps what it contains. The count of channels is that of the different names that were `inserted`,
and never goes down. -/
theorem one_log_per_name (events : List Event) :
    (∀ (i j : Nat) (name other : String) (id place : LogId),
      (start.run events).visitors[i]? = some ⟨name, .holding id⟩ →
      (start.run events).visitors[j]? = some ⟨other, .holding place⟩ →
      (id = place ↔ name = other)) ∧
    (∀ name, (start.record added events).count name =
      if name ∈ start.record inserted events then 1 else 0) ∧
    (∀ (i : Nat) (name : String) (id : LogId),
      (start.run events).visitors[i]? = some ⟨name, .holding id⟩ →
      name ∈ start.record inserted events ∧
      ((start.run events).registry.log id).toList = start.record (appended name) events ∧
      ∀ more, (start.run (events ++ more)).visitors[i]? = some ⟨name, .holding id⟩ ∧
        (start.run (events ++ more)).registry.find? name = some id ∧
        ((start.run events).registry.log id).toList <+:
          ((start.run (events ++ more)).registry.log id).toList) ∧
    (start.run events).registry.count = (start.record inserted events).toFinset.card ∧
    ∀ more, (start.run events).registry.count ≤ (start.run (events ++ more)).registry.count := by
  have sound := sound_run sound_start events
  -- What a visitor holds is the log of its name, and that log is the record of its pushes.
  have held {i : Nat} {name : String} {id : LogId} {events : List Event}
      (holds : (start.run events).visitors[i]? = some ⟨name, .holding id⟩) :
      ((start.run events).registry.log id).toList = start.record (appended name) events := by
    rw [log_of_holding (sound_run sound_start events) holds, toList_run sound_start]
    rfl
  refine ⟨?_, ?_, ?_, count_run events, ?_⟩
  · intro i j name other id place first second
    have found := sound.holding first
    have found' := sound.holding second
    constructor
    · rintro rfl
      exact Registry.eq_of_find? found found'
    · rintro rfl
      exact Option.some.inj (found.symm.trans found')
  · intro name
    simp only [← mem_added_iff, ← names_run_start]
    exact sound.nodup.count
  · intro i name id holds
    refine ⟨?_, held holds, fun more => ?_⟩
    · rw [← mem_added_iff, ← names_run_start]
      exact Registry.mem_names_of_find? (sound.holding holds)
    · -- A visitor keeps what it holds, so it holds the same log after `more`.
      have kept : (start.run (events ++ more)).visitors[i]? = some ⟨name, .holding id⟩ := by
        rw [run_append]
        exact holding_run holds more
      refine ⟨kept, (sound_run sound_start _).holding kept, ?_⟩
      rw [held holds, held kept, record_append]
      exact List.prefix_append _ _
  · intro more
    -- Names are only added, so their number does not fall.
    have grown : (start.run events).registry.names <+:
        (start.run (events ++ more)).registry.names :=
      ⟨_, (run_append start events more ▸ names_run _ more).symm⟩
    simpa using grown.length_le

/-- Two visitors miss the same name before one of them inserts its channel. -/
def race : List Event :=
  [.come "a", .come "b", .come "a", .lookUp 0, .lookUp 2, .lookUp 1, .insert 2, .push 2 .null,
    .insert 0, .wake 2, .push 0 (.bool true), .insert 1]

/-- The case of `one_log_per_name` for `race`: both visitors are given one log, in which both find
what they have appended. -/
theorem one_log_per_name_race :
    ((0 : LogId) = 0 ↔ "a" = "a") ∧ ((0 : LogId) = 1 ↔ "a" = "b") ∧
    (start.record added race).count "a" = 1 ∧ start.record inserted race = ["a", "a", "b"] ∧
    ((start.run race).registry.log 0).toList = [.null, .bool true] ∧
    (start.run race).registry.count = 2 := by
  obtain ⟨same, once, held, count, -⟩ := one_log_per_name race
  exact ⟨same 0 2 "a" "a" 0 0 rfl rfl, same 0 1 "a" "b" 0 1 rfl rfl, once "a", rfl,
    (held 2 "a" 0 rfl).2.1, count⟩

end Entrance

end StateChannel
