import StateChannel.Proofs.Relay.Linearization
import StateChannel.Relay.Timeline

/-!
# Channels in time are one way of taking steps

In `Timeline` a call runs on until it has to wait, and readers look when they are woken or when
their time is up. Each of these is a run of the steps of `Interleaving`, so that what holds of all
ways in which calls come between each other holds of channels in time.

## Main definitions

* `Call.perform`: what a call comes to when no other comes between its steps
* `Move.alone`: the steps of such a call
* `Timeline.Shadows`: the readers of a timeline are calls that wait

## Main results

* `Stage.advances_naming`: a call that no other comes between takes four steps at most
* `Timeline.Shadows.append`, `Timeline.Shadows.seq`, `Timeline.Shadows.receive`: calls that start
* `Timeline.Shadows.leave`: a reader that is woken, or whose time is up
* `Timeline.Shadows.drop`: readers that are dropped
-/

namespace StateChannel

theorem Registry.update_update (r : Registry) (id : LogId) (change later : Log → Log) :
    (r.update id change).update id later = r.update id (later ∘ change) := by
  simp only [update, List.modify_modify_eq]
  rfl

/-- What `call` comes to when no other call steps in between: it is answered, or it waits. -/
def Call.perform (r : Registry) (call : Call) : Registry × Stage :=
  let (r, id) := r.enter call.channel
  match call with
  | .send _ message => (r.update id (·.append message), .answered .sent)
  | .getSeq _ => (r, .answered (.seq ⟨(r.log id).seq⟩))
  | .receive _ start =>
    let reader := (r.log id).subscribe start.toNat
    match reader.check? (r.log id) with
    | some slice => (r, .answered (.received slice))
    | none => (r, .waiting id reader)

namespace Stage

/-- Taking `advance` a number of times, one step after the other. -/
def advances (call : Call) : Nat → Registry → Stage → Registry × Stage
  | 0, r, stage => (r, stage)
  | count + 1, r, stage =>
    let (r, stage) := stage.advance call r
    advances call count r stage

theorem advances_of_fixed {call : Call} {r : Registry} {stage : Stage}
    (fixed : stage.advance call r = (r, stage)) (count : Nat) :
    advances call count r stage = (r, stage) := by
  induction count with
  | zero => rfl
  | succ count ih =>
    rw [advances, fixed]
    exact ih

/-- Two steps take a call from `.entered id` to its answer, or to where it waits. -/
theorem advances_entered (call : Call) {r : Registry} {id : LogId} (count : Nat) :
    advances call (count + 2) r (.entered id) =
      match call with
      | .send _ message => (r.update id (·.append message), .answered .sent)
      | .getSeq _ => (r, .answered (.seq ⟨(r.log id).seq⟩))
      | .receive _ start =>
        let reader := (r.log id).subscribe start.toNat
        match reader.check? (r.log id) with
        | some slice => (r, .answered (.received slice))
        | none => (r, .waiting id reader) := by
  -- A send takes two moves at its channel, one to store and one to wake; the others take one.
  cases call with
  | send channel message =>
    apply (advances_of_fixed rfl count).trans
    exact congrArg (·, Stage.answered .sent) (Registry.update_update r id _ _)
  | getSeq channel => exact advances_of_fixed rfl count
  | receive channel start =>
    simp only [advances, advance]
    cases checked : ((r.log id).subscribe start.toNat).check? (r.log id) with
    | some slice => exact advances_of_fixed rfl count
    | none => exact advances_of_fixed (advance_waiting (Reader.not_isWoken_subscribe _ _)) count

/-- A call that no other call steps between has come to `perform` after four steps. -/
theorem advances_naming (call : Call) (r : Registry) :
    advances call 4 r .naming = call.perform r := by
  unfold Call.perform Registry.enter
  cases found : r.find? call.channel with
  | some id =>
    simp only [advances, advance, found]
    exact advances_entered call 1
  | none =>
    simp only [advances, advance, found]
    exact advances_entered call 0

end Stage

/-- A move of the call at `index`: it takes a step, or its time is up. -/
def Move.IsOf (index : Nat) (move : Move) : Prop := move = .advance index ∨ move = .timeOut index

/-- Four steps of the call at `index` in a row. -/
def Move.alone (index : Nat) : List Move := List.replicate 4 (.advance index)

theorem Move.isOf_of_mem_alone {index : Nat} {move : Move} (member : move ∈ alone index) :
    move.IsOf index :=
  .inl (List.eq_of_mem_replicate member)

/-- The index of the call that a move is about; `.begin` has none. -/
def Move.index? : Move → Option Nat
  | .begin _ => none
  | .advance index | .timeOut index | .drop index => some index

theorem Move.index?_of_isOf {index : Nat} {move : Move} (own : move.IsOf index) :
    move.index? = some index := by
  rcases own with rfl | rfl <;> rfl

namespace Interleaving

variable {s : Interleaving} {index : Nat} {call : Call} {stage : Stage}

theorem getElem?_move_of_ne {move : Move} {other : Nat} (about : move.index? = some other)
    (apart : other ≠ index) : (s.move move).calls[index]? = s.calls[index]? := by
  cases move with
  | begin call => exact nomatch about
  | advance place =>
    obtain rfl := Option.some.inj about
    cases found : s.calls[place]? with
    | none => rw [move_advance_none found]
    | some p =>
      rw [move_advance found]
      exact List.getElem?_modify_ne _ _ apart
  | timeOut place | drop place =>
    obtain rfl := Option.some.inj about
    exact List.getElem?_modify_ne _ _ apart

/-- Moves about other indices leave the call at `index` where it is. -/
theorem getElem?_run_of_others {moves : List Move}
    (others : ∀ move ∈ moves, ∃ other, other ≠ index ∧ move.index? = some other) :
    (s.run moves).calls[index]? = s.calls[index]? := by
  induction moves generalizing s with
  | nil => rfl
  | cons move moves ih =>
    obtain ⟨other, apart, about⟩ := others move List.mem_cons_self
    have rest := fun later member => others later (List.mem_cons_of_mem move member)
    exact (ih rest).trans (getElem?_move_of_ne about apart)

/-- Dropping calls changes no channel. -/
theorem registry_run_drop (s : Interleaving) (places : List Nat) :
    (s.run (places.map .drop)).registry = s.registry := by
  induction places generalizing s with
  | nil => rfl
  | cons place places ih => exact (ih _).trans (move_drop_registry s place)

/-! ### A call that starts -/

theorem run_begin (s : Interleaving) (calls : List Call) :
    s.run (calls.map .begin) =
      { s with calls := s.calls ++ calls.map fun call => ⟨call, .naming⟩ } := by
  induction calls generalizing s with
  | nil => simp
  | cons call calls ih => simp [ih, move]

theorem registry_run_replicate (found : s.calls[index]? = some ⟨call, stage⟩) (count : Nat) :
    (s.run (List.replicate count (.advance index))).registry =
      (Stage.advances call count s.registry stage).1 := by
  induction count generalizing s stage with
  | zero => rfl
  | succ count ih =>
    have next := getElem?_move found (.advance index)
    simp only [Stage.next, if_true] at next
    rw [List.replicate_succ, run_cons, ih next, move_advance found]
    rfl

theorem getElem?_run_replicate (found : s.calls[index]? = some ⟨call, stage⟩) (count : Nat) :
    (s.run (List.replicate count (.advance index))).calls[index]? =
      some ⟨call, (Stage.advances call count s.registry stage).2⟩ := by
  induction count generalizing s stage with
  | zero => exact found
  | succ count ih =>
    have next := getElem?_move found (.advance index)
    simp only [Stage.next, if_true] at next
    rw [List.replicate_succ, run_cons, ih next, move_advance found]
    rfl

/-- A call that is `.naming` has come to `perform` after its moves `alone`. -/
theorem run_naming (found : s.calls[index]? = some ⟨call, .naming⟩) :
    (s.run (Move.alone index)).registry = (call.perform s.registry).1 ∧
      (s.run (Move.alone index)).calls[index]? =
        some ⟨call, (call.perform s.registry).2⟩ := by
  rw [Move.alone, registry_run_replicate found, getElem?_run_replicate found,
    Stage.advances_naming]
  exact ⟨rfl, rfl⟩

/-! ### Readers that go on -/

/-- A reader that is woken, or whose time is up, goes on with one more step: it is answered with
what it reads, and no channel changes. -/
theorem run_goOn {id : LogId} {reader : Reader} {move : Move}
    (found : s.calls[index]? = some ⟨call, .waiting id reader⟩)
    (goes : move = .timeOut index ∨
      move = .advance index ∧ reader.IsWoken (s.registry.log id)) :
    (s.run [move, .advance index]).registry = s.registry ∧
      (s.run [move, .advance index]).outcome? index =
        some (.received (reader.read (s.registry.log id))) := by
  -- The reader is past its wait, woken or out of time, and has not read yet.
  have resumed : (s.move move).registry = s.registry ∧
      (s.move move).calls[index]? = some ⟨call, .resuming id reader⟩ := by
    have next := getElem?_move found move
    rcases goes with rfl | ⟨rfl, woken⟩
    · exact ⟨rfl, by simpa [Stage.next, Stage.timeOut] using next⟩
    · rw [move_advance found]
      rw [move_advance found] at next
      exact ⟨by simp [Stage.advance, woken, setStage],
        by simpa [Stage.next, Stage.advance, woken] using next⟩
  obtain ⟨same, resuming⟩ := resumed
  have answered := getElem?_move resuming (.advance index)
  rw [run_cons, run_cons, run_nil]
  constructor
  · rw [move_advance resuming]
    exact same
  · rw [outcome?_eq_some_iff]
    refine ⟨call, answered.trans ?_⟩
    simp [Stage.next, Stage.advance, same]

end Interleaving

/-! ### Timelines -/

namespace Timeline

variable {κ : Type}

/-- The readers of a timeline that have not been told anything yet: first those that have been
woken. -/
def readers (t : Timeline κ) : List (Wait κ) := t.woken ++ t.waits

/-- The timeline `t` has the channels of `s`, each of its readers is the waiting call of `s` at the
number `index` gives it, and those in `woken` have been woken. -/
structure Shadows (t : Timeline κ) (s : Interleaving) (index : κ → Nat) : Prop where
  sound : s.Sound
  registry : t.registry = s.registry
  waiting : ∀ w ∈ t.readers, ∃ call, s.calls[index w.key]? = some ⟨call, .waiting w.id w.reader⟩
  woken : ∀ w ∈ t.woken, w.reader.IsWoken (t.registry.log w.id)
  apart : (t.readers.map fun w => index w.key).Nodup

namespace Shadows

variable {t later : Timeline κ} {s : Interleaving} {index : κ → Nat} {place : Nat} {call : Call}

theorem empty (index : κ → Nat) : (Timeline.empty : Timeline κ).Shadows .start index where
  sound := Interleaving.sound_start
  registry := rfl
  waiting := fun _ member => nomatch member
  woken := fun _ member => nomatch member
  apart := List.nodup_nil

/-- A reader that is woken stays woken as the registry grows to `r`. -/
theorem isWoken (shadows : t.Shadows s index) {r : Registry} (grows : t.registry.Grows r)
    {w : Wait κ} (member : w ∈ t.readers) (woken : w.reader.IsWoken (t.registry.log w.id)) :
    w.reader.IsWoken (r.log w.id) := by
  obtain ⟨call, found⟩ := shadows.waiting w member
  have entered : t.registry.find? call.channel = some w.id :=
    shadows.registry ▸ (shadows.sound found).1
  have more := grows.wakeups call.channel
  rw [Registry.logOf_of_find? entered, Registry.logOf_of_find? (grows.find? entered)] at more
  exact Nat.lt_of_lt_of_le woken more

/-- A call that is still `.naming` is not the call of a reader of `t`. -/
theorem ne_of_naming (shadows : t.Shadows s index) (found : s.calls[place]? = some ⟨call, .naming⟩)
    {w : Wait κ} (member : w ∈ t.readers) : place ≠ index w.key := by
  rintro rfl
  obtain ⟨other, waits⟩ := shadows.waiting w member
  rw [found] at waits
  exact nomatch waits

theorem waiting_run (shadows : t.Shadows s index) (found : s.calls[place]? = some ⟨call, .naming⟩)
    {moves : List Move} (own : ∀ move ∈ moves, move.IsOf place) {w : Wait κ}
    (member : w ∈ t.readers) :
    ∃ call, (s.run moves).calls[index w.key]? = some ⟨call, .waiting w.id w.reader⟩ := by
  rw [Interleaving.getElem?_run_of_others]
  · exact shadows.waiting w member
  · intro move moved
    exact ⟨place, shadows.ne_of_naming found member, Move.index?_of_isOf (own move moved)⟩

/-- Moves of a call that starts keep `Shadows`, if `later` has the same readers and the registry of
the moves. -/
theorem run (shadows : t.Shadows s index) (found : s.calls[place]? = some ⟨call, .naming⟩)
    {moves : List Move} (own : ∀ move ∈ moves, move.IsOf place)
    (registry : later.registry = (s.run moves).registry) (readers : later.readers.Perm t.readers)
    (woken : ∀ w ∈ later.woken, w ∈ t.woken ∨ w.reader.IsWoken (later.registry.log w.id)) :
    later.Shadows (s.run moves) index where
  sound := Interleaving.sound_run shadows.sound moves
  registry := registry
  waiting w member := shadows.waiting_run found own (readers.mem_iff.1 member)
  woken w member := by
    rcases woken w member with old | new
    · have grows : t.registry.Grows later.registry := by
        rw [shadows.registry, registry]
        exact Interleaving.grows_run shadows.sound moves
      exact shadows.isWoken grows (List.mem_append_left _ old) (shadows.woken w old)
    · exact new
  apart := (readers.map _).nodup_iff.2 shadows.apart

theorem enter (shadows : t.Shadows s index) (found : s.calls[place]? = some ⟨call, .naming⟩)
    {moves : List Move} (own : ∀ move ∈ moves, move.IsOf place) :
    ({ t with registry := (s.run moves).registry } : Timeline κ).Shadows (s.run moves) index := by
  refine shadows.run found own rfl (List.Perm.refl _) ?_
  intro w member
  exact .inl member

/-! ### Calls that start -/

/-- Beginning `calls` keeps `Shadows`. -/
theorem begin (shadows : t.Shadows s index) (calls : List Call) :
    t.Shadows (s.run (calls.map .begin)) index := by
  refine ⟨Interleaving.sound_run shadows.sound _, ?_, ?_, shadows.woken, shadows.apart⟩
  · rw [Interleaving.run_begin]
    exact shadows.registry
  · intro w member
    obtain ⟨call, found⟩ := shadows.waiting w member
    rw [Interleaving.run_begin]
    exact ⟨call, (List.getElem?_append_left (List.getElem?_eq_some_iff.1 found).1).trans found⟩

/-- `Shadows` depends on `index` only at the keys of the readers. -/
theorem congr {other : κ → Nat} (shadows : t.Shadows s index)
    (same : ∀ w ∈ t.readers, other w.key = index w.key) : t.Shadows s other where
  sound := shadows.sound
  registry := shadows.registry
  waiting w member := same w member ▸ shadows.waiting w member
  woken := shadows.woken
  apart := by
    rw [List.map_congr_left same]
    exact shadows.apart

/-- An append to `channel` wakes the readers of its log. -/
theorem isWoken_append (shadows : t.Shadows s index) {channel : String} (message : Json)
    {w : Wait κ} (member : w ∈ t.readers) (same : w.id = (t.registry.enter channel).2) :
    w.reader.IsWoken ((t.append channel message).1.registry.log w.id) := by
  obtain ⟨call, found⟩ := shadows.waiting w member
  obtain ⟨entered, since, _⟩ := shadows.sound found
  rw [← shadows.registry] at entered since
  have place := Registry.find?_enter t.registry channel
  -- The place of a log belongs to one channel, so the reader waits on the one that is sent to.
  have kept : (t.registry.enter channel).1.find? call.channel =
      some (t.registry.enter channel).2 := by
    rw [Registry.enter_eq_create] at same ⊢
    rw [← same]
    exact Registry.find?_create_of_find? entered channel
  obtain rfl := Registry.eq_of_find? kept place
  have after : (t.append call.channel message).1.registry.find? call.channel = some w.id := by
    rw [same]
    exact (Registry.find?_update _ _ _ _).trans place
  rw [← Registry.logOf_of_find? after, logOf_append, if_pos rfl]
  exact Reader.isWoken_append since message

theorem append (shadows : t.Shadows s index) {channel : String} {message : Json}
    (found : s.calls[place]? = some ⟨.send channel message, .naming⟩) :
    (t.append channel message).1.Shadows (s.run (Move.alone place)) index ∧
      (s.run (Move.alone place)).outcome? place = some .sent := by
  obtain ⟨registry, answered⟩ := Interleaving.run_naming found
  refine ⟨shadows.run found (fun _ => Move.isOf_of_mem_alone) ?_ ?_ ?_,
    Interleaving.outcome?_eq_some_iff.2 ⟨_, answered⟩⟩
  · rw [registry, ← shadows.registry]
    rfl
  · -- The readers are the same, and some of them have been woken.
    show ((t.woken ++ _) ++ _).Perm (t.woken ++ t.waits)
    rw [List.append_assoc]
    exact (List.filter_append_perm _ t.waits).append_left t.woken
  · intro w member
    rcases List.mem_append.1 member with old | new
    · exact .inl old
    · obtain ⟨waits, same⟩ := List.mem_filter.1 new
      exact .inr (shadows.isWoken_append message (List.mem_append_right _ waits) (eq_of_beq same))

theorem seq (shadows : t.Shadows s index) {channel : String}
    (found : s.calls[place]? = some ⟨.getSeq channel, .naming⟩) :
    (t.seq channel).1.Shadows (s.run (Move.alone place)) index ∧
      (s.run (Move.alone place)).outcome? place =
        some (.seq ⟨(t.seq channel).2⟩) := by
  obtain ⟨registry, answered⟩ := Interleaving.run_naming found
  rw [← shadows.registry] at registry answered
  have entered := shadows.enter found fun _ => Move.isOf_of_mem_alone
  rw [registry] at entered
  exact ⟨entered, Interleaving.outcome?_eq_some_iff.2 ⟨_, answered⟩⟩

/-- A call that comes to wait becomes the reader `w`, and `Shadows` holds of the timeline with
`w`. -/
theorem wait (shadows : t.Shadows s index) (w : Wait κ)
    (found : s.calls[index w.key]? = some ⟨call, .naming⟩) {moves : List Move}
    (own : ∀ move ∈ moves, move.IsOf (index w.key))
    (waits : (s.run moves).calls[index w.key]? = some ⟨call, .waiting w.id w.reader⟩) :
    ({ t with registry := (s.run moves).registry, waits := t.waits ++ [w] } : Timeline κ).Shadows
      (s.run moves) index := by
  have moved := shadows.enter found own
  have readers (registry : Registry) :
      ({ t with registry, waits := t.waits ++ [w] } : Timeline κ).readers = t.readers ++ [w] :=
    (List.append_assoc _ _ _).symm
  refine ⟨moved.sound, rfl, ?_, moved.woken, ?_⟩
  · -- The waits of the others are untouched, and the new one has a call of its own.
    intro v member
    rw [readers] at member
    rcases List.mem_append.1 member with old | new
    · exact moved.waiting v old
    · obtain rfl := List.mem_singleton.1 new
      exact ⟨call, waits⟩
  · rw [readers, List.map_append, List.map_singleton]
    refine List.nodup_append.2 ⟨moved.apart, List.pairwise_singleton _ _, ?_⟩
    intro number member other single
    obtain ⟨v, old, rfl⟩ := List.mem_map.1 member
    rw [List.mem_singleton.1 single]
    exact (shadows.ne_of_naming found old).symm

theorem receive (shadows : t.Shadows s index) {key : κ} {channel : String} {start : UInt64}
    (found : s.calls[index key]? = some ⟨.receive channel start, .naming⟩) (timeout : Nat) :
    ∃ moves, (∀ move ∈ moves, move.IsOf (index key)) ∧
      (t.receive key channel start.toNat timeout).1.Shadows (s.run moves) index ∧
      ∀ d ∈ (t.receive key channel start.toNat timeout).2,
        (s.run moves).outcome? (index key) = some (.received d.slice) := by
  obtain ⟨registry, stage⟩ := Interleaving.run_naming found
  have own : ∀ move ∈ Move.alone (index key), move.IsOf (index key) :=
    fun _ => Move.isOf_of_mem_alone
  rw [← shadows.registry] at registry stage
  unfold Timeline.receive
  unfold Call.perform at registry stage
  simp only [Call.channel] at registry stage
  -- The reader is told at once off the log as it is when it comes, or starts to wait.
  cases checked : (((t.registry.enter channel).1.log (t.registry.enter channel).2).subscribe
      start.toNat).check? ((t.registry.enter channel).1.log (t.registry.enter channel).2) with
  | some slice =>
    simp only [checked] at registry stage ⊢
    have entered := shadows.enter found own
    rw [registry] at entered
    refine ⟨_, own, entered, ?_⟩
    rintro d ⟨⟩
    exact Interleaving.outcome?_eq_some_iff.2 ⟨_, stage⟩
  | none =>
    simp only [checked] at registry stage ⊢
    by_cases zero : timeout = 0
    · -- A reader that may not wait at all looks once more at once.
      obtain ⟨same, told⟩ := Interleaving.run_goOn stage (.inl rfl)
      have all : ∀ move ∈ Move.alone (index key) ++ [.timeOut (index key), .advance (index key)],
          move.IsOf (index key) := by
        intro move member
        rcases List.mem_append.1 member with first | last
        · exact own move first
        · simpa [Move.IsOf, or_comm] using last
      have entered := shadows.enter found all
      rw [Interleaving.run_append, same, registry] at entered
      rw [registry] at told
      rw [if_pos zero]
      refine ⟨_, all, by rwa [Interleaving.run_append], ?_⟩
      rintro d ⟨⟩
      rwa [Interleaving.run_append]
    · rw [if_neg zero]
      have waits := shadows.wait ⟨key, _, _, t.now + timeout⟩ found own stage
      rw [registry] at waits
      refine ⟨_, own, waits, ?_⟩
      rintro d ⟨⟩

/-! ### Readers that go on -/

/-- `Shadows` depends only on which readers there are and which of them are woken, not on their
order. -/
theorem rearrange (shadows : t.Shadows s index) (registry : later.registry = t.registry)
    (readers : later.readers.Perm t.readers) (woken : ∀ w ∈ later.woken, w ∈ t.woken) :
    later.Shadows s index where
  sound := shadows.sound
  registry := registry.trans shadows.registry
  waiting w member := shadows.waiting w (readers.mem_iff.1 member)
  woken w member := registry ▸ shadows.woken w (woken w member)
  apart := (readers.map _).nodup_iff.2 shadows.apart

/-- The reader of `w`, which is woken or whose time is up, leaves by two moves: it is answered with
what its log holds past its position, and `Shadows` holds of the others. -/
theorem leave (shadows : t.Shadows s index) {w : Wait κ} {first : Move}
    (registry : later.registry = t.registry) (readers : (w :: later.readers).Perm t.readers)
    (woken : ∀ v ∈ later.woken, v ∈ t.woken)
    (goes : first = .timeOut (index w.key) ∨
      first = .advance (index w.key) ∧ w.reader.IsWoken (t.registry.log w.id)) :
    later.Shadows (s.run [first, .advance (index w.key)]) index ∧
      (s.run [first, .advance (index w.key)]).outcome? (index w.key) =
        some (.received (w.reader.read (t.registry.log w.id))) := by
  have apart := (readers.map fun v => index v.key).nodup_iff.2 shadows.apart
  obtain ⟨new, apart⟩ := List.nodup_cons.1 apart
  obtain ⟨call, found⟩ := shadows.waiting w (readers.mem_iff.1 List.mem_cons_self)
  have about : first.index? = some (index w.key) := by
    rcases goes with rfl | ⟨rfl, _⟩ <;> rfl
  rw [shadows.registry] at goes registry ⊢
  obtain ⟨same, told⟩ := Interleaving.run_goOn found goes
  -- The others still wait, since only the call of the reader has moved.
  refine ⟨⟨Interleaving.sound_run shadows.sound _, registry.trans same.symm, ?_, ?_, apart⟩, told⟩
  · intro v member
    rw [Interleaving.getElem?_run_of_others]
    · exact shadows.waiting v (readers.mem_iff.1 (List.mem_cons_of_mem w member))
    · have differ : index w.key ≠ index v.key :=
        fun equal => new (List.mem_map.2 ⟨v, member, equal.symm⟩)
      intro move moved
      refine ⟨index w.key, differ, ?_⟩
      rcases List.mem_cons.1 moved with rfl | last
      · exact about
      · rw [List.mem_singleton.1 last]
        rfl
  · intro v member
    rw [registry, ← shadows.registry]
    exact shadows.woken v (woken v member)

/-- Dropping the readers that `isDropped` names keeps `Shadows`, if `places` has the number of no
other. -/
theorem drop (shadows : t.Shadows s index) (isDropped : κ → Bool) {places : List Nat}
    (others : ∀ w ∈ t.readers, isDropped w.key = false → index w.key ∉ places) :
    (t.drop isDropped).Shadows (s.run (places.map .drop)) index := by
  have kept : (t.drop isDropped).readers = t.readers.filter fun w => !isDropped w.key :=
    (List.filter_append _ _).symm
  refine ⟨Interleaving.sound_run shadows.sound _, ?_, ?_, ?_, ?_⟩
  · rw [Interleaving.registry_run_drop]
    exact shadows.registry
  · intro w member
    rw [kept] at member
    -- A reader that stays is none of those dropped, and a move for another call does not touch it.
    obtain ⟨old, stays⟩ := List.mem_filter.1 member
    rw [Interleaving.getElem?_run_of_others]
    · exact shadows.waiting w old
    · intro move moved
      obtain ⟨place, dropped, rfl⟩ := List.mem_map.1 moved
      refine ⟨place, ?_, rfl⟩
      rintro rfl
      exact others w old (by simpa using stays) dropped
  · intro w member
    exact shadows.woken w (List.mem_filter.1 member).1
  · rw [kept]
    exact shadows.apart.sublist (List.filter_sublist.map _)

end Shadows

end Timeline

end StateChannel
