import StateChannel.Relay.History

/-!
# What one step does

A step of a call touches one log only, that of its channel, and does one of three things to the
channels: it creates one, stores one message, or wakes the readers. All that holds along a run
rests on the statements here; no other proof looks into `Stage.advance`.

## Main definitions

* `Stage.Fits`: a stage is one that its call can be in
* `Interleaving.Sound`: every call is in a stage that fits it

## Main results

* `Stage.toList_advance`, `Stage.wakeups_advance`: what a step does to the log of each name
* `Stage.fits_advance`, `Stage.Fits.mono`: stages keep fitting
* `Stage.outcome_of_advance`: an answer says what the log holds when it is given
* `Interleaving.getElem?_move`, `Interleaving.of_getElem?_move`: what a move does to each call
* `Interleaving.sound_run`: every call of a run is in a stage that fits it
-/

namespace StateChannel

namespace Registry

theorem logOf_of_find? {r : Registry} {name : String} {id : LogId} (h : r.find? name = some id) :
    r.logOf name = r.log id := by
  simp [logOf, h]

theorem logOf_create (r : Registry) (name other : String) :
    (r.create name).1.logOf other = r.logOf other := by
  rw [← enter_eq_create]
  exact logOf_enter r name other

/-- A channel keeps its place `id` when `other` is created. -/
theorem find?_create_of_find? {r : Registry} {name : String} {id : LogId}
    (h : r.find? name = some id) (other : String) : (r.create other).1.find? name = some id := by
  unfold create
  split
  · exact h
  · have found : r.channels.findIdx? (fun channel => channel.name == name) = some id := h
    simp [find?, List.findIdx?_append, found]

theorem find?_enter_of_find? {r : Registry} {name : String} {id : LogId}
    (found : r.find? name = some id) (other : String) :
    (r.enter other).1.find? name = some id := by
  rw [enter_eq_create]
  exact find?_create_of_find? found other

/-- From `r` to `later` channels keep their places, and `wakeups` of their logs never go down. -/
structure Grows (r later : Registry) : Prop where
  find? : ∀ {name : String} {id : LogId}, r.find? name = some id → later.find? name = some id
  wakeups : ∀ name : String, (r.logOf name).wakeups ≤ (later.logOf name).wakeups

theorem Grows.refl (r : Registry) : r.Grows r := ⟨id, fun _ => Nat.le_refl _⟩

theorem Grows.trans {r later last : Registry} (first : r.Grows later) (second : later.Grows last) :
    r.Grows last :=
  ⟨fun found => second.find? (first.find? found),
    fun name => Nat.le_trans (first.wakeups name) (second.wakeups name)⟩

end Registry

namespace Stage

/-- The next step of a call in this stage wakes the readers. -/
def IsStored : Stage → Prop
  | .stored _ => True
  | _ => False

instance : DecidablePred IsStored := fun stage => by
  unfold IsStored
  split <;> exact inferInstance

/-- A stage that `call` can be in with the registry `r`: a place is that of its channel, a step is
one of its kind, and a reader has subscribed to no later waking than the last. -/
def Fits (call : Call) (r : Registry) : Stage → Prop
  | .naming | .creating | .dropped => True
  | .entered id => r.find? call.channel = some id
  | .stored id => r.find? call.channel = some id ∧ ∃ message, call = .send call.channel message
  | .subscribed id reader | .waiting id reader | .resuming id reader =>
    r.find? call.channel = some id ∧ reader.since ≤ (r.logOf call.channel).wakeups ∧
      ∃ start, call = .receive call.channel start ∧ reader.start = start.toNat
  | .answered outcome => ∃ messages, outcome = call.outcome messages

theorem Fits.mono {call : Call} {r later : Registry} {stage : Stage} (fits : stage.Fits call r)
    (grows : r.Grows later) : stage.Fits call later := by
  cases stage with
  | naming | creating | dropped | answered outcome => exact fits
  | entered id => exact grows.find? fits
  | stored id => exact ⟨grows.find? fits.1, fits.2⟩
  | subscribed id reader | waiting id reader | resuming id reader =>
    exact ⟨grows.find? fits.1, Nat.le_trans fits.2.1 (grows.wakeups _), fits.2.2⟩

variable {call : Call} {r : Registry} {stage : Stage}

theorem Fits.timeOut (fits : stage.Fits call r) : stage.timeOut.Fits call r := by
  cases stage <;> exact fits

theorem Fits.drop (fits : stage.Fits call r) : stage.drop.Fits call r := by
  cases stage <;> first | exact fits | trivial

/-- What a step does to the registry: nothing, `create`, `push` of the message that the stage
stores, or `wake`. -/
theorem registry_advance (call : Call) (r : Registry) (stage : Stage) :
    (stage.advance call r).1 = r ∧ stage.storing? call = none ∧ ¬ stage.IsStored ∨
    stage = .creating ∧ (stage.advance call r).1 = (r.create call.channel).1 ∨
    (∃ id message, stage = .entered id ∧ stage.storing? call = some message ∧
      (stage.advance call r).1 = r.update id (·.push message)) ∨
    ∃ id, stage = .stored id ∧ (stage.advance call r).1 = r.update id Log.wake := by
  -- Three stages change the channels; in all others a call looks at most.
  cases stage with
  | naming =>
    left
    cases found : r.find? call.channel <;> simp [advance, found, storing?, IsStored]
  | creating => exact .inr (.inl ⟨rfl, rfl⟩)
  | entered id =>
    cases call with
    | send channel message => exact .inr (.inr (.inl ⟨id, message, rfl, rfl, rfl⟩))
    | getSeq channel => exact .inl ⟨rfl, rfl, fun h => h⟩
    | receive channel start => exact .inl ⟨rfl, rfl, fun h => h⟩
  | stored id => exact .inr (.inr (.inr ⟨id, rfl, rfl⟩))
  | subscribed id reader =>
    left
    cases checked : reader.check? (r.log id) <;> simp [advance, checked, storing?, IsStored]
  | waiting id reader =>
    left
    by_cases woken : reader.IsWoken (r.log id) <;> simp [advance, woken, storing?, IsStored]
  | resuming id reader => exact .inl ⟨rfl, rfl, fun h => h⟩
  | answered outcome => exact .inl ⟨rfl, rfl, fun h => h⟩
  | dropped => exact .inl ⟨rfl, rfl, fun h => h⟩

/-- A step appends what `storing?` gives to the log of the channel of `call`, and nothing to any
other. -/
theorem toList_advance (fits : stage.Fits call r) (name : String) :
    ((stage.advance call r).1.logOf name).toList =
      (r.logOf name).toList ++
        if name = call.channel then (stage.storing? call).toList else [] := by
  rcases registry_advance call r stage with
    ⟨same, idle, _⟩ | ⟨rfl, created⟩ | ⟨id, message, rfl, storing, stored⟩ | ⟨id, rfl, woken⟩
  · simp [same, idle]
  · simp [created, Registry.logOf_create, storing?]
  · rw [stored, storing, Registry.logOf_update fits]
    split <;> simp
  · rw [woken, Registry.logOf_update fits.1]
    split <;> simp [storing?]

/-- A step in the stage `.stored` adds one to `wakeups` of the channel of `call`; any other step
adds nothing. -/
theorem wakeups_advance (fits : stage.Fits call r) (name : String) :
    ((stage.advance call r).1.logOf name).wakeups =
      (r.logOf name).wakeups + if name = call.channel ∧ stage.IsStored then 1 else 0 := by
  rcases registry_advance call r stage with
    ⟨same, _, quiet⟩ | ⟨rfl, created⟩ | ⟨id, message, rfl, _, stored⟩ | ⟨id, rfl, woken⟩
  · simp [same, quiet]
  · simp [created, Registry.logOf_create, IsStored]
  · rw [stored, Registry.logOf_update fits]
    split <;> simp [Log.push, IsStored]
  · rw [woken, Registry.logOf_update fits.1]
    split <;> simp_all [Log.wake, IsStored]

theorem grows_advance (fits : stage.Fits call r) : r.Grows (stage.advance call r).1 where
  find? := by
    -- A channel is created behind the others, so that all of them keep their places.
    intro name id found
    rcases registry_advance call r stage with
      ⟨same, _⟩ | ⟨_, created⟩ | ⟨place, message, _, _, stored⟩ | ⟨place, _, woken⟩
    · rw [same]
      exact found
    · rw [created]
      exact Registry.find?_create_of_find? found _
    · rw [stored, Registry.find?_update]
      exact found
    · rw [woken, Registry.find?_update]
      exact found
  wakeups name := by
    rw [wakeups_advance fits]
    exact Nat.le_add_right _ _

/-! ### Answers -/

/-- The slice that a reader reads from the log of its channel is what `Call.outcome` gives on its
messages. -/
theorem received_slice {id : LogId} {start : UInt64} (found : r.find? call.channel = some id)
    (same : call = .receive call.channel start) :
    Outcome.received ((r.log id).slice start.toNat) =
      call.outcome (r.logOf call.channel).toList := by
  rw [Registry.logOf_of_find? found, same]
  rfl

/-- A call that is answered by a step gets what `Call.outcome` gives on the messages of its channel
before the step. -/
theorem outcome_of_advance (fits : stage.Fits call r) {outcome : Outcome}
    (answered : (stage.advance call r).2 = .answered outcome) :
    stage = .answered outcome ∨ outcome = call.outcome (r.logOf call.channel).toList := by
  -- A reader can be answered in two stages: by its look before the wait, and by that after it.
  cases stage with
  | naming => cases found : r.find? call.channel <;> simp [advance, found] at answered
  | creating => simp [advance] at answered
  | entered id =>
    right
    cases call with
    | send channel message => simp [advance] at answered
    | getSeq channel =>
      have found : r.find? channel = some id := fits
      simp only [advance, Stage.answered.injEq] at answered
      simp [← answered, Call.outcome, Call.channel, Registry.logOf_of_find? found]
    | receive channel start => simp [advance] at answered
  | stored id =>
    right
    obtain ⟨_, message, same⟩ := fits
    simp only [advance, Stage.answered.injEq] at answered
    rw [← answered, same]
    rfl
  | subscribed id reader =>
    right
    obtain ⟨found, _, start, same, position⟩ := fits
    rw [← received_slice found same, ← position]
    by_cases past : reader.start < (r.log id).seq
    · simp only [advance, Reader.check?, past, if_true, Stage.answered.injEq] at answered
      exact answered.symm
    · simp [advance, Reader.check?, past] at answered
  | waiting id reader =>
    by_cases woken : reader.IsWoken (r.log id) <;> simp [advance, woken] at answered
  | resuming id reader =>
    right
    obtain ⟨found, _, start, same, position⟩ := fits
    rw [← received_slice found same, ← position]
    simp only [advance, Stage.answered.injEq] at answered
    exact answered.symm
  | answered given => exact .inl answered
  | dropped => simp [advance] at answered

theorem fits_advance (fits : stage.Fits call r) :
    (stage.advance call r).2.Fits call (stage.advance call r).1 := by
  -- Where the step answers, the answer fits by what it says.
  cases stage with
  | naming => cases found : r.find? call.channel <;> simp [advance, found, Fits]
  | creating => exact Registry.find?_create r call.channel
  | entered id =>
    have found : r.find? call.channel = some id := fits
    cases call with
    | send channel message => exact ⟨(Registry.find?_update _ _ _ _).trans found, message, rfl⟩
    | getSeq channel =>
      exact ⟨_, (outcome_of_advance fits rfl).resolve_left Stage.noConfusion⟩
    | receive channel start =>
      refine ⟨found, ?_, start, rfl, rfl⟩
      exact Nat.le_of_eq (congrArg Log.wakeups (Registry.logOf_of_find? found).symm)
  | stored id => exact ⟨_, (outcome_of_advance fits rfl).resolve_left Stage.noConfusion⟩
  | subscribed id reader =>
    cases checked : reader.check? (r.log id) with
    | none =>
      simp only [advance, checked]
      exact fits
    | some slice =>
      have answered : (advance call r (.subscribed id reader)).2 = .answered (.received slice) := by
        simp [advance, checked]
      rw [answered]
      exact ⟨_, (outcome_of_advance fits answered).resolve_left Stage.noConfusion⟩
  | waiting id reader =>
    by_cases woken : reader.IsWoken (r.log id) <;> simp only [advance, woken] <;> exact fits
  | resuming id reader => exact ⟨_, (outcome_of_advance fits rfl).resolve_left Stage.noConfusion⟩
  | answered outcome => exact fits
  | dropped => trivial

/-! ### Moves -/

/-- The stage of the call at `index` after a move. -/
def next (call : Call) (r : Registry) (index : Nat) (stage : Stage) : Move → Stage
  | .begin _ => stage
  | .advance place => if place = index then (stage.advance call r).2 else stage
  | .timeOut place => if place = index then stage.timeOut else stage
  | .drop place => if place = index then stage.drop else stage

/-- A step that leads to `.waiting` comes from `.subscribed`, or from the same `.waiting`. -/
theorem advance_eq_waiting {id : LogId} {reader : Reader}
    (waits : (stage.advance call r).2 = .waiting id reader) :
    stage = .waiting id reader ∨ stage = .subscribed id reader := by
  cases stage with
  | naming => cases found : r.find? call.channel <;> simp [advance, found] at waits
  | entered place => cases call <;> simp [advance] at waits
  | creating | stored place | resuming place other | answered outcome | dropped =>
    simp [advance] at waits
  | subscribed place other =>
    cases checked : other.check? (r.log place) <;> simp_all [advance]
  | waiting place other =>
    by_cases woken : other.IsWoken (r.log place) <;> simp_all [advance]

/-- A move that leads to `.waiting` is the step of a reader that was `.subscribed`, or it leaves
one that waits. -/
theorem next_eq_waiting {index : Nat} {move : Move} {id : LogId} {reader : Reader}
    (waits : stage.next call r index move = .waiting id reader) :
    stage = .waiting id reader ∨ move = .advance index ∧ stage = .subscribed id reader := by
  cases move with
  | begin other => exact .inl waits
  | advance place =>
    by_cases same : place = index
    · simp only [next, same, if_true] at waits
      exact (advance_eq_waiting waits).imp_right fun looked => ⟨congrArg Move.advance same, looked⟩
    · exact .inl (by simpa [next, same] using waits)
  | timeOut place =>
    left
    by_cases same : place = index <;> cases stage <;> simp_all [next, timeOut]
  | drop place =>
    left
    by_cases same : place = index <;> cases stage <;> simp_all [next, drop]

/-- A move that leads to `.answered` is the step of the call itself, or the call was answered
before. -/
theorem next_eq_answered {index : Nat} {move : Move} {outcome : Outcome}
    (answered : stage.next call r index move = .answered outcome) :
    stage = .answered outcome ∨
      move = .advance index ∧ (stage.advance call r).2 = .answered outcome := by
  cases move with
  | begin other => exact .inl answered
  | advance place =>
    by_cases same : place = index <;> simp_all [next]
  | timeOut place =>
    left
    by_cases same : place = index <;> cases stage <;> simp_all [next, timeOut]
  | drop place =>
    left
    by_cases same : place = index <;> cases stage <;> simp_all [next, drop]

end Stage

namespace Interleaving

variable {s : Interleaving} {index : Nat} {call : Call} {stage : Stage}

/-- Every call of `s` is in a stage that `Fits` it. -/
def Sound (s : Interleaving) : Prop :=
  ∀ ⦃index : Nat⦄ ⦃call : Call⦄ ⦃stage : Stage⦄,
    s.calls[index]? = some ⟨call, stage⟩ → stage.Fits call s.registry

theorem move_advance (found : s.calls[index]? = some ⟨call, stage⟩) :
    s.move (.advance index) =
      setStage { s with registry := (stage.advance call s.registry).1 } index
        fun _ => (stage.advance call s.registry).2 := by
  simp [move, found]

theorem move_advance_none (missing : s.calls[index]? = none) : s.move (.advance index) = s := by
  simp [move, missing]

theorem getElem?_setStage (found : s.calls[index]? = some ⟨call, stage⟩) (place : Nat)
    (change : Stage → Stage) :
    (s.setStage place change).calls[index]? =
      some ⟨call, if place = index then change stage else stage⟩ := by
  rw [setStage, List.getElem?_modify, found]
  split <;> rfl

/-- After a `move` the call at `index` is the same, and its stage is `Stage.next`. -/
theorem getElem?_move (found : s.calls[index]? = some ⟨call, stage⟩) (move : Move) :
    (s.move move).calls[index]? = some ⟨call, stage.next call s.registry index move⟩ := by
  cases move with
  | begin other =>
    have inside : index < s.calls.length := (List.getElem?_eq_some_iff.1 found).1
    exact (List.getElem?_append_left inside).trans found
  | advance place =>
    -- Only an `advance` of this very call moves it on.
    cases other : s.calls[place]? with
    | none =>
      have apart : place ≠ index := by
        rintro rfl
        simp [other] at found
      simp [move_advance_none other, Stage.next, apart, found]
    | some q =>
      rw [move_advance other]
      refine (getElem?_setStage (by exact found) place _).trans ?_
      by_cases same : place = index
      · subst same
        obtain rfl := Option.some.inj (other.symm.trans found)
        rfl
      · simp [Stage.next, same]
  | timeOut place => exact getElem?_setStage found place Stage.timeOut
  | drop place => exact getElem?_setStage found place Stage.drop

theorem length_calls_move (s : Interleaving) (move : Move) :
    (s.move move).calls.length =
      s.calls.length + match move with
        | .begin _ => 1
        | _ => 0 := by
  cases move with
  | begin call => simp [Interleaving.move]
  | advance place => cases other : s.calls[place]? <;> simp [Interleaving.move, other, setStage]
  | timeOut place => simp [Interleaving.move, setStage]
  | drop place => simp [Interleaving.move, setStage]

/-- A call after a `move` was there before, and its stage is `Stage.next`, or it has just begun. -/
theorem of_getElem?_move {move : Move}
    (found : (s.move move).calls[index]? = some ⟨call, stage⟩) :
    (∃ before, s.calls[index]? = some ⟨call, before⟩ ∧
      stage = before.next call s.registry index move) ∨
      s.calls[index]? = none ∧ move = .begin call ∧ stage = .naming := by
  cases earlier : s.calls[index]? with
  | some p =>
    left
    obtain ⟨call, before⟩ := p
    have moved := (getElem?_move earlier move).symm.trans found
    obtain ⟨rfl, rfl⟩ := Pending.mk.inj (Option.some.inj moved)
    exact ⟨before, rfl, rfl⟩
  | none =>
    right
    -- The place is new, and only the beginning of a call makes a new one.
    have outside : s.calls.length ≤ index := List.getElem?_eq_none_iff.1 earlier
    have inside := (List.getElem?_eq_some_iff.1 found).1
    rw [length_calls_move] at inside
    cases move with
    | begin other =>
      have last : index = s.calls.length := Nat.le_antisymm (Nat.le_of_lt_succ inside) outside
      have new : (s.move (.begin other)).calls[index]? = some ⟨other, .naming⟩ := by
        simp [Interleaving.move, last]
      obtain ⟨rfl, rfl⟩ := Pending.mk.inj (Option.some.inj (new.symm.trans found))
      exact ⟨rfl, rfl, rfl⟩
    | advance place | timeOut place | drop place => exact absurd inside (Nat.not_lt.2 outside)

/-! ### Along a run -/

theorem grows_move (sound : s.Sound) (move : Move) : s.registry.Grows (s.move move).registry := by
  cases move with
  | advance place =>
    cases found : s.calls[place]? with
    | none =>
      rw [move_advance_none found]
      exact Registry.Grows.refl _
    | some p =>
      rw [move_advance found]
      exact Stage.grows_advance (sound found)
  | begin call => exact Registry.Grows.refl _
  | timeOut place => exact Registry.Grows.refl _
  | drop place => exact Registry.Grows.refl _

theorem sound_start : start.Sound := by
  intro index call stage found
  simp [start] at found

theorem sound_move (sound : s.Sound) (move : Move) : (s.move move).Sound := by
  intro index call stage found
  rcases of_getElem?_move found with ⟨before, earlier, rfl⟩ | ⟨_, _, rfl⟩
  · -- What fitted still fits, as nothing is lost from the channels.
    have kept := (sound earlier).mono (grows_move sound move)
    cases move with
    | begin other => exact kept
    | advance place =>
      simp only [Stage.next]
      split
      · next same =>
        rw [same, move_advance earlier]
        exact Stage.fits_advance (sound earlier)
      · exact kept
    | timeOut place =>
      simp only [Stage.next]
      split
      · exact kept.timeOut
      · exact kept
    | drop place =>
      simp only [Stage.next]
      split
      · exact kept.drop
      · exact kept
  · trivial

theorem sound_run (sound : s.Sound) (moves : List Move) : (s.run moves).Sound := by
  induction moves generalizing s with
  | nil => exact sound
  | cons move moves ih => exact ih (sound_move sound move)

theorem grows_run (sound : s.Sound) (moves : List Move) :
    s.registry.Grows (s.run moves).registry := by
  induction moves generalizing s with
  | nil => exact Registry.Grows.refl _
  | cons move moves ih => exact (grows_move sound move).trans (ih (sound_move sound move))

end Interleaving

end StateChannel
