import Mathlib.Data.List.Nodup
import Mathlib.Data.List.Perm.Basic
import StateChannel.Proofs.Relay.Starting

/-!
# A relay takes the steps of its calls

Whatever a relay does, its calls could have done as well, each in steps of its own that come
between those of the others. A relay starts the requests of a batch in order, lets readers go on in
turns and answers at the last moment; none of this gives an answer that calls side by side do not
give.

## Main definitions

* `Relay.Follows`: the relay works on the bodies of some traffic, and its readers wait there
* `Traffic.Gives`: a response is put together from the answers to the parts of a body

## Main results

* `Relay.goOnOrder_perm`, `Relay.gather_perm`: an order of going on leaves no reader out
* `Relay.Follows.settle`, `Relay.Follows.settleAll`: readers that leave, and what they are told
* `Relay.Follows.resume`, `Relay.Follows.pass`: readers that are woken, or whose time is up
-/

namespace StateChannel

/-! ### Who goes on first -/

theorem exists_map_of_perm {α β : Type} {f : α → β} {items : List α} {images : List β}
    (perm : images.Perm (items.map f)) :
    ∃ order : List α, images = order.map f ∧ order.Perm items := by
  have composed := congrFun (congrFun (List.eq_map_comp_perm f) images) items
  exact composed.mpr perm

theorem nodup_eraseDups {τ : Type} [DecidableEq τ] (names : List τ) : names.eraseDups.Nodup := by
  induction length : names.length using Nat.strongRecOn generalizing names with
  | ind count ih =>
    cases names with
    | nil => exact List.nodup_nil
    | cons n names =>
      have fewer : (names.filter fun m => !m == n).length < count := by
        rw [← length]
        exact Nat.lt_succ_of_le (List.length_filter_le _ _)
      rw [List.eraseDups_cons, List.nodup_cons]
      refine ⟨?_, ih _ fewer _ rfl⟩
      intro member
      simpa using (List.mem_filter.1 (List.mem_eraseDups.1 member)).2

/-- If each `name` of an item is once among `names`, picking the items name by name gives all of
them, in some order. -/
theorem perm_flatMap_filter {α τ : Type} [DecidableEq τ] (name : α → τ) {names : List τ}
    (distinct : names.Nodup) {items : List α} (covered : ∀ a ∈ items, name a ∈ names) :
    (names.flatMap fun n => items.filter fun a => name a == n).Perm items := by
  induction names generalizing items with
  | nil =>
    -- Without names nothing can be covered.
    have none : items = [] :=
      List.eq_nil_iff_forall_not_mem.2 fun a member => nomatch covered a member
    simp [none]
  | cons n names ih =>
    obtain ⟨new, distinct⟩ := List.nodup_cons.1 distinct
    let others := items.filter fun a => !(name a == n)
    have rest : (names.flatMap fun m => others.filter fun a => name a == m).Perm others := by
      apply ih distinct
      intro a member
      obtain ⟨inside, other⟩ := List.mem_filter.1 member
      have differs : name a ≠ n := by simpa using other
      exact (List.mem_cons.1 (covered a inside)).resolve_left differs
    -- The other names pick nothing that the first one has picked.
    have same : ∀ m ∈ names, (items.filter fun a => name a == m) =
        others.filter fun a => name a == m := by
      intro m member
      rw [List.filter_filter]
      apply List.filter_congr
      intro a _
      have apart : m ≠ n := fun equal => new (equal ▸ member)
      by_cases hit : name a = m <;> simp [hit, apart]
    rw [List.flatMap_cons, List.flatMap_def, List.map_congr_left same, ← List.flatMap_def]
    exact (rest.append_left _).trans (List.filter_append_perm (fun a => name a == n) items)

/-- The submission `f` with the entry at `key` done with `answer`, if `key` is one of its
places. -/
def InFlight.settleAt (f : InFlight) (key : Place) (answer : Option Json) : InFlight :=
  if f.ticket = key.1 then f.settle key.2 answer else f

@[simp]
theorem InFlight.ticket_settleAt (f : InFlight) (key : Place) (answer : Option Json) :
    (f.settleAt key answer).ticket = f.ticket := by
  unfold settleAt
  split <;> rfl

theorem InFlight.getElem?_settleAt (f : InFlight) (key : Place) (answer : Option Json) (i : Nat) :
    (f.settleAt key answer).entries[i]? =
      if (f.ticket, i) = key then f.entries[i]?.map fun _ => .done answer else f.entries[i]? := by
  obtain ⟨ticket, place⟩ := key
  by_cases same : f.ticket = ticket
  · simp only [settleAt, settle, same, if_true, Prod.mk.injEq, true_and]
    rw [List.getElem?_set']
    by_cases here : place = i
    · rw [if_pos here, if_pos here.symm]
      rfl
    · rw [if_neg here, if_neg (Ne.symm here)]
  · simp [settleAt, same]

namespace Relay

theorem gather_perm (deliveries : List (Delivery Place)) :
    (gather deliveries).Perm deliveries := by
  apply perm_flatMap_filter (fun d : Delivery Place => d.key.1) (nodup_eraseDups _)
  intro d member
  exact List.mem_eraseDups.2 (List.mem_map_of_mem member)

theorem goOnOrder_perm (ticket : Ticket) (size : Nat) (deliveries : List (Delivery Place)) :
    (goOnOrder ticket size deliveries).Perm deliveries := by
  have split := List.filter_append_perm (fun d : Delivery Place => d.key.1 == ticket) deliveries
  simp only [goOnOrder, List.partition_eq_filter_filter]
  by_cases small : size ≤ roundSize
  · rw [if_pos small]
    exact ((gather_perm _).append_right _).trans (List.perm_append_comm.trans split)
  · rw [if_neg small]
    exact ((gather_perm _).append_left _).trans split

/-! ### What readers were told -/

theorem settle_of_find? {relay : Relay} {d : Delivery Place} {f : InFlight}
    (found : relay.inFlight.find? (fun f => f.ticket == d.key.1) = some f) :
    (relay.settle d).inFlight = relay.inFlight.map fun g =>
      g.settleAt d.key (Entry.answer (f.waitingId d.key.2) (.ok (.received d.slice))) := by
  simp only [settle, found]
  rfl

theorem timeline_settle (relay : Relay) (d : Delivery Place) :
    (relay.settle d).timeline = relay.timeline := by
  unfold settle
  split <;> rfl

theorem config_settle (relay : Relay) (d : Delivery Place) :
    (relay.settle d).config = relay.config := by
  unfold settle
  split <;> rfl

theorem wording_settle (relay : Relay) (d : Delivery Place) :
    (relay.settle d).wording = relay.wording := by
  unfold settle
  split <;> rfl

/-- The relay with more readers that wait. -/
def holding (relay : Relay) (waits : List (Wait Place)) : Relay :=
  { relay with timeline := { relay.timeline with waits := waits ++ relay.timeline.waits } }

theorem settle_holding (relay : Relay) (waits : List (Wait Place)) (d : Delivery Place) :
    (relay.holding waits).settle d = (relay.settle d).holding waits := by
  unfold settle
  cases found : relay.inFlight.find? (fun f => f.ticket == d.key.1) <;> simp [holding, found]

end Relay

/-- A submission with an entry that has no answer has no response. -/
theorem InFlight.response?_of_waiting {f : InFlight} {progress : Progress}
    (member : progress ∈ f.entries) (waits : progress.answer? = none) : f.response? = none := by
  obtain ⟨ticket, began, isBatch, entries⟩ := f
  have none : entries.mapM Progress.answer? = none := by
    induction entries with
    | nil => exact nomatch member
    | cons first entries ih =>
      rcases List.mem_cons.1 member with rfl | later
      · simp [waits]
      · simp [ih later]
  rw [response?, none, Option.map_none]

/-! ### A relay and its traffic -/

/-- The number of the call made for the entry at `key`, whose ticket stands for a `body`. -/
def Traffic.numberOf (t : Traffic) (body : Ticket → Nat) (key : Place) : Nat :=
  t.number (body key.1) key.2

/-- The response is put together from the answers to the parts of one body of `t`. -/
def Traffic.Gives (t : Traffic) (response : HttpResponse) : Prop :=
  ∃ isBatch body, body < t.bodies ∧ t.response? isBatch body = some response

theorem Traffic.Gives.run {t : Traffic} {response : HttpResponse} (gives : t.Gives response)
    (events : List Event) : (t.run events).Gives response := by
  obtain ⟨isBatch, body, inside, given⟩ := gives
  exact ⟨isBatch, body, Nat.lt_of_lt_of_le inside (bodies_run t events),
    response?_run inside given events⟩

/-- The relay works on bodies of the traffic `t`: `body` tells which body each ticket stands for,
each entry in flight has come as far as its part, each reader waits for its call, and the entries
of all parts are those `asked`. -/
structure Relay.Follows (relay : Relay) (t : Traffic) (body : Ticket → Nat)
    (asked : List Entry) : Prop where
  sound : t.Sound
  asked : t.parts.map Part.entry = asked
  config : t.config = relay.config
  started : ∀ f ∈ relay.inFlight, body f.ticket < t.bodies
  apart : (relay.inFlight.map fun f => body f.ticket).Nodup
  entries : ∀ f ∈ relay.inFlight,
    f.entries = (t.partsOf (body f.ticket)).map fun part => part.progress t.interleaving
  shadows : relay.timeline.Shadows t.interleaving (t.numberOf body)
  owned : ∀ w ∈ relay.timeline.readers,
    (∃ f ∈ relay.inFlight, f.ticket = w.key.1) ∧ t.HasCall (body w.key.1) w.key.2

namespace Relay.Follows

variable {relay : Relay} {t : Traffic} {body : Ticket → Nat} {asked : List Entry}

/-- Two submissions in flight with the same `body` are the same. -/
theorem eq_of_body (follows : relay.Follows t body asked) {f g : InFlight}
    (first : f ∈ relay.inFlight) (second : g ∈ relay.inFlight)
    (same : body f.ticket = body g.ticket) : f = g :=
  List.inj_on_of_nodup_map follows.apart first second same

theorem find?_inFlight (follows : relay.Follows t body asked) {f : InFlight}
    (inside : f ∈ relay.inFlight) :
    relay.inFlight.find? (fun g => g.ticket == f.ticket) = some f := by
  cases found : relay.inFlight.find? (fun g => g.ticket == f.ticket) with
  | none => simpa using List.find?_eq_none.1 found f inside
  | some g =>
    have same : g.ticket = f.ticket := by simpa using List.find?_some found
    rw [follows.eq_of_body (List.mem_of_find?_eq_some found) inside (congrArg body same)]

theorem response?_eq (follows : relay.Follows t body asked) {f : InFlight}
    (inside : f ∈ relay.inFlight) : f.response? = t.response? f.isBatch (body f.ticket) := by
  rw [InFlight.response?, follows.entries f inside]
  rfl

theorem gives (follows : relay.Follows t body asked) {f : InFlight} (inside : f ∈ relay.inFlight)
    {response : HttpResponse} (given : f.response? = some response) : t.Gives response :=
  ⟨f.isBatch, body f.ticket, follows.started f inside, follows.response?_eq inside ▸ given⟩

/-- The reader of `w` waits for a `part` of its body: the one at its place, whose call has not been
answered. -/
theorem exists_part (follows : relay.Follows t body asked) {w : Wait Place}
    (member : w ∈ relay.timeline.readers) :
    ∃ part call id method params, (t.partsOf (body w.key.1))[w.key.2]? = some part ∧
      part.entry = .call id method params ∧ Call.route method params = .ok call ∧
      part.made = some (call, t.numberOf body w.key) ∧
      part.progress t.interleaving = .waiting id := by
  obtain ⟨_, part, call, index, present, made⟩ := follows.owned w member
  obtain ⟨id, method, params, entry, routed⟩ :=
    Traffic.entry_of_made follows.sound (Traffic.mem_parts_of_getElem? present).1 made
  have number : t.numberOf body w.key = index := Traffic.number_of_made present made
  have unanswered : part.answer? t.interleaving = none := by
    obtain ⟨other, waits⟩ := follows.shadows.waiting w member
    rw [Traffic.answer?_of_made entry routed made, ← number, Interleaving.outcome?, waits]
    rfl
  refine ⟨part, call, id, method, params, present, entry, routed, number ▸ made, ?_⟩
  rw [Part.progress, unanswered, entry]

/-- A submission with a reader has no response yet. -/
theorem response?_of_reader (follows : relay.Follows t body asked) {w : Wait Place}
    (member : w ∈ relay.timeline.readers) {f : InFlight} (inside : f ∈ relay.inFlight)
    (named : f.ticket = w.key.1) : f.response? = none := by
  obtain ⟨part, call, id, method, params, present, -, -, -, waits⟩ := follows.exists_part member
  rw [← named] at present
  have waiting : Progress.waiting id ∈ f.entries := by
    rw [follows.entries f inside, ← waits]
    exact List.mem_map_of_mem (List.mem_of_getElem? present)
  exact InFlight.response?_of_waiting waiting rfl

/-- `Follows` depends only on which readers there are and which of them are woken, not on their
order. -/
theorem rearrange (follows : relay.Follows t body asked) {later : Timeline Place}
    (registry : later.registry = relay.timeline.registry)
    (readers : later.readers.Perm relay.timeline.readers)
    (woken : ∀ w ∈ later.woken, w ∈ relay.timeline.woken) :
    ({ relay with timeline := later } : Relay).Follows t body asked where
  sound := follows.sound
  asked := follows.asked
  config := follows.config
  started := follows.started
  apart := follows.apart
  entries := follows.entries
  shadows := follows.shadows.rearrange registry readers woken
  owned w member := follows.owned w (readers.mem_iff.1 member)

/-- Submissions that have a response can be taken out of `inFlight`. -/
theorem retire (follows : relay.Follows t body asked) {inFlight : List InFlight}
    (fewer : inFlight.Sublist relay.inFlight)
    (kept : ∀ f ∈ relay.inFlight, f.response? = none → f ∈ inFlight) :
    ({ relay with inFlight } : Relay).Follows t body asked where
  sound := follows.sound
  asked := follows.asked
  config := follows.config
  started f inside := follows.started f (fewer.subset inside)
  apart := follows.apart.sublist (fewer.map _)
  entries f inside := follows.entries f (fewer.subset inside)
  shadows := follows.shadows
  owned w member := by
    -- A submission with a reader has not been answered, so it stays.
    obtain ⟨⟨f, inside, named⟩, call⟩ := follows.owned w member
    exact ⟨⟨f, kept f inside (follows.response?_of_reader member inside named), named⟩, call⟩

/-! ### Readers that go on -/

/-- The `moves` of the call of a reader `w` that leaves change the progress of no part at another
place. -/
theorem progress_leave (follows : relay.Follows t body asked) {w : Wait Place}
    (member : w ∈ relay.timeline.readers) {moves : List Move}
    (own : ∀ move ∈ moves, move.IsOf (t.numberOf body w.key)) {f : InFlight}
    (inside : f ∈ relay.inFlight) {place : Nat} {part : Part}
    (present : (t.partsOf (body f.ticket))[place]? = some part)
    (apart : (f.ticket, place) ≠ w.key) :
    part.progress (t.interleaving.run moves) = part.progress t.interleaving := by
  apply Part.progress_run_of_others
  intro call index made move moved
  obtain ⟨waited, next, id, method, params, here, -, -, called, -⟩ := follows.exists_part member
  refine ⟨_, ?_, Move.index?_of_isOf (own move moved)⟩
  -- A part with the same call would be the part that the reader waits for.
  rintro rfl
  obtain ⟨same, rfl⟩ := Traffic.eq_of_number follows.sound present made here called
  obtain ⟨⟨g, held, named⟩, _⟩ := follows.owned w member
  rw [← named] at same
  apply apart
  rw [follows.eq_of_body inside held same, named]

/-- After the `moves` of the call of `w`, `settleAt` has brought every entry as far as its part. -/
theorem entries_settleAt (follows : relay.Follows t body asked) {w : Wait Place}
    (member : w ∈ relay.timeline.readers) {moves : List Move}
    (own : ∀ move ∈ moves, move.IsOf (t.numberOf body w.key)) {part : Part} {answer : Option Json}
    (present : (t.partsOf (body w.key.1))[w.key.2]? = some part)
    (answered : part.progress (t.interleaving.run moves) = .done answer) {f : InFlight}
    (inside : f ∈ relay.inFlight) :
    (f.settleAt w.key answer).entries =
      (t.partsOf (body f.ticket)).map fun part => part.progress (t.interleaving.run moves) := by
  apply List.ext_getElem?
  intro i
  rw [InFlight.getElem?_settleAt, follows.entries f inside, List.getElem?_map, List.getElem?_map]
  -- At the place of `w` the answer is written, and all other parts stand as they stood.
  by_cases here : (f.ticket, i) = w.key
  · rw [← here] at present
    rw [if_pos here, present]
    exact congrArg some answered.symm
  · rw [if_neg here]
    cases other : (t.partsOf (body f.ticket))[i]? with
    | none => rfl
    | some q => exact congrArg some (follows.progress_leave member own inside other here).symm

/-- Settling the delivery to `w` in the relay is `settleAt` with the answer that the `.received`
slice gives. -/
theorem inFlight_settle (follows : relay.Follows t body asked) (later : Timeline Place)
    {w : Wait Place} (member : w ∈ relay.timeline.readers) {part : Part} {id : Option Json}
    (present : (t.partsOf (body w.key.1))[w.key.2]? = some part)
    (waits : part.progress t.interleaving = .waiting id) (time : Nat) :
    (({ relay with timeline := later } : Relay).settle (relay.timeline.deliver time w)).inFlight =
      relay.inFlight.map fun f => f.settleAt w.key
        (Entry.answer id (.ok (.received (w.reader.read (relay.timeline.registry.log w.id))))) := by
  obtain ⟨⟨f, inside, named⟩, _⟩ := follows.owned w member
  have held : f.waitingId w.key.2 = id := by
    rw [InFlight.waitingId, follows.entries f inside, named, List.getElem?_map, present,
      Option.map_some, waits]
  rw [Relay.settle_of_find? (named ▸ follows.find?_inFlight inside)]
  simp only [Timeline.deliver, held]

/-- The reader of `w` leaves by the move `first` and one more step: settling its delivery follows
those events. -/
theorem settle (follows : relay.Follows t body asked) (later : Timeline Place) {w : Wait Place}
    {first : Move} (registry : later.registry = relay.timeline.registry)
    (readers : (w :: later.readers).Perm relay.timeline.readers)
    (woken : ∀ v ∈ later.woken, v ∈ relay.timeline.woken)
    (goes : first = .timeOut (t.numberOf body w.key) ∨
      first = .advance (t.numberOf body w.key) ∧
        w.reader.IsWoken (relay.timeline.registry.log w.id)) (time : Nat) :
    ∃ events, (({ relay with timeline := later } : Relay).settle
      (relay.timeline.deliver time w)).Follows (t.run events) body asked := by
  have member : w ∈ relay.timeline.readers := readers.mem_iff.1 List.mem_cons_self
  -- The reader leaves its wait and then reads, in two moves of its own call.
  have own : ∀ move ∈ [first, .advance (t.numberOf body w.key)],
      move.IsOf (t.numberOf body w.key) := by
    rcases goes with rfl | ⟨rfl, _⟩ <;> simp [Move.IsOf]
  obtain ⟨shadowed, told⟩ := follows.shadows.leave registry readers woken goes
  obtain ⟨part, call, id, method, params, present, entry, routed, made, waits⟩ :=
    follows.exists_part member
  -- What the call gives there is what is delivered to `w`.
  have answered : part.progress (t.interleaving.run [first, .advance (t.numberOf body w.key)]) =
      .done (Entry.answer id
        (.ok (.received (w.reader.read (relay.timeline.registry.log w.id))))) := by
    apply Part.progress_of_answer?
    rw [Traffic.answer?_of_made entry routed made, told]
    rfl
  have noted := follows.inFlight_settle later member present waits time
  obtain ⟨events, reached⟩ :=
    Traffic.exists_events follows.sound fun move moved => ⟨_, own move moved⟩
  have sound := Traffic.sound_run follows.sound events
  refine ⟨events, ?_⟩
  rw [reached] at sound ⊢
  -- All that the relay has changed is the entry of `w` and the readers, which `w` has left.
  refine ⟨sound, follows.asked, ?_, ?_, ?_, ?_, ?_, ?_⟩
  · rw [Relay.config_settle]
    exact follows.config
  · rw [noted]
    intro g changed
    obtain ⟨f, inside, rfl⟩ := List.mem_map.1 changed
    rw [InFlight.ticket_settleAt]
    exact follows.started f inside
  · rw [noted, List.map_map]
    simpa only [Function.comp_def, InFlight.ticket_settleAt] using follows.apart
  · rw [noted]
    intro g changed
    obtain ⟨f, inside, rfl⟩ := List.mem_map.1 changed
    rw [InFlight.ticket_settleAt]
    exact follows.entries_settleAt member own present answered inside
  · rw [Relay.timeline_settle]
    exact shadowed
  · rw [noted, Relay.timeline_settle]
    intro v stays
    obtain ⟨⟨f, inside, named⟩, call⟩ :=
      follows.owned v (readers.mem_iff.1 (List.mem_cons_of_mem w stays))
    refine ⟨⟨_, List.mem_map_of_mem inside, ?_⟩, call⟩
    rw [InFlight.ticket_settleAt, named]

/-- Readers `leaving` one after the other, each with a first move of its call, follow the events of
all of them, and each response is one that the traffic `Gives`. -/
theorem settleAll {leaving : List (Wait Place)} {first : Nat → Move} {time : Wait Place → Nat}
    (follows : (relay.holding leaving).Follows t body asked)
    (goes : ∀ w ∈ leaving, ∀ number, first number = .timeOut number ∨
      first number = .advance number ∧ w.reader.IsWoken (relay.timeline.registry.log w.id)) :
    ∃ events,
      (relay.settleAll (leaving.map fun w => relay.timeline.deliver (time w) w)).1.Follows
        (t.run events) body asked ∧
      ∀ x ∈ (relay.settleAll (leaving.map fun w => relay.timeline.deliver (time w) w)).2,
        (t.run events).Gives x.response := by
  induction leaving generalizing relay t with
  | nil => exact ⟨[], follows, fun x member => nomatch member⟩
  | cons w leaving ih =>
    -- One reader leaves, then what is answered is forgotten, then the others leave.
    let d := relay.timeline.deliver (time w) w
    let rest := { relay.settle d with
      inFlight := (relay.settle d).inFlight.filter fun f => f.response?.isNone }
    have same : rest.timeline = relay.timeline := Relay.timeline_settle relay d
    have settled : ∃ events,
        ((relay.settle d).holding leaving).Follows (t.run events) body asked := by
      rw [← Relay.settle_holding]
      exact follows.settle (relay.holding leaving).timeline rfl List.perm_middle.symm
        (fun v member => member) (goes w List.mem_cons_self _) (time w)
    obtain ⟨events, settled⟩ := settled
    have retired : (rest.holding leaving).Follows (t.run events) body asked := by
      apply settled.retire List.filter_sublist
      intro f inside unanswered
      exact List.mem_filter.2 ⟨inside, by rw [unanswered]; rfl⟩
    obtain ⟨later, followed, given⟩ := ih retired (by
      intro v member
      rw [same]
      exact goes v (List.mem_cons_of_mem w member))
    rw [same] at followed given
    refine ⟨events ++ later, ?_, ?_⟩
    · rw [Traffic.run_append]
      exact followed
    · rw [Traffic.run_append]
      intro x member
      rcases List.mem_append.1 member with now | after
      · obtain ⟨f, inside, done⟩ := List.mem_filterMap.1 now
        obtain ⟨response, answered, rfl⟩ := Option.map_eq_some_iff.1 done
        exact (settled.gives inside answered).run later
      · exact given x after

/-- `resume` follows some events of the traffic, and each response is one that it `Gives`. -/
theorem resume (follows : relay.Follows t body asked) (ticket : Ticket) (size : Nat) :
    ∃ events, (relay.resume ticket size).1.Follows (t.run events) body asked ∧
      ∀ x ∈ (relay.resume ticket size).2, (t.run events).Gives x.response := by
  obtain ⟨leaving, ordered, order⟩ :=
    exists_map_of_perm (Relay.goOnOrder_perm ticket size relay.timeline.resume.2)
  -- The readers that have been woken are held back, and then let go in their order.
  have held : (({ relay with timeline := relay.timeline.resume.1 } : Relay).holding
      leaving).Follows t body asked :=
    follows.rearrange rfl (order.append_right _) fun w member => nomatch member
  have woken : ∀ w ∈ leaving, w.reader.IsWoken (relay.timeline.registry.log w.id) :=
    fun w member => follows.shadows.woken w (order.mem_iff.1 member)
  obtain ⟨events, followed, given⟩ :=
    held.settleAll fun w member number => .inr ⟨rfl, woken w member⟩
  simp only [Relay.resume, ordered]
  exact ⟨events, followed, given⟩

/-- `pass` follows some events of the traffic, and each response is one that it `Gives`. -/
theorem pass (follows : relay.Follows t body asked) (millis : Nat) :
    ∃ events, (relay.pass millis).1.Follows (t.run events) body asked ∧
      ∀ x ∈ (relay.pass millis).2, (t.run events).Gives x.response := by
  let due := relay.timeline.waits.filter fun w => w.deadline ≤ relay.timeline.now + millis
  let staying := relay.timeline.waits.filter fun w => ¬ w.deadline ≤ relay.timeline.now + millis
  -- The deliveries are put in order and gathered, which leaves the same readers in another order.
  obtain ⟨leaving, ordered, order⟩ := exists_map_of_perm
    ((Relay.gather_perm _).trans (List.mergeSort_perm (relay.timeline.pass millis).2
      fun d e => decide (Relay.Precedes d e)))
  have sorted : leaving.Perm due := order.trans (List.mergeSort_perm due _)
  have split : (due ++ staying).Perm relay.timeline.waits := by
    have parts := List.filter_append_perm
      (fun w : Wait Place => w.deadline ≤ relay.timeline.now + millis) relay.timeline.waits
    simpa only [due, staying, decide_not] using parts
  have held : (({ relay with timeline := (relay.timeline.pass millis).1 } : Relay).holding
      leaving).Follows t body asked :=
    follows.rearrange rfl (((sorted.append_right _).trans split).append_left _)
      fun w member => member
  obtain ⟨events, followed, given⟩ := held.settleAll fun w member number => .inl rfl
  simp only [Relay.pass, ordered]
  exact ⟨events, followed, given⟩

end Relay.Follows

end StateChannel
