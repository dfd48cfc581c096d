import StateChannel.Proofs.Relay.Board
import StateChannel.Proofs.Relay.Steady

/-!
# A relay with one request more

Two relays of which one has a reader that the other has not: whatever is done to both, they answer
everything else alike. The reader may have created a channel, so that one of them has a channel more
until its name is used by others, and it is counted when it leaves.

## Main definitions

* `Registry.Beside`: the same channels, apart from a spare one
* `Timeline.Hides`: the same readers, apart from hidden ones
* `Relay.Hides`: the same submissions, apart from a hidden one
* `Relay.shown`: the answers to all but hidden submissions
* `Relay.Alike`: answers that differ at most in a count that was asked for

## Main results

* `Timeline.Hides.invoke`: calls start alike
* `Relay.gather_filter`, `Relay.goOnOrder_filter`: readers go on in the same order without others
* `Relay.Hides.settleAll`: what readers are told is answered alike
* `Relay.Hides.operateAll`: whatever others do gives the same in both
-/

namespace List

/-- Filtering by `p` and erasing duplicates commute. -/
theorem eraseDups_filter {α : Type} [BEq α] [LawfulBEq α] (p : α → Bool) (items : List α) :
    (items.filter p).eraseDups = items.eraseDups.filter p := by
  match items with
  | [] => rfl
  | a :: items =>
    have ih := eraseDups_filter p (items.filter fun b => !b == a)
    rw [eraseDups_cons, filter_cons, filter_cons, ← ih, filter_filter]
    by_cases kept : p a = true
    · rw [if_pos kept, if_pos kept, eraseDups_cons, filter_filter]
      simp only [Bool.and_comm]
    · rw [if_neg kept, if_neg kept]
      congr 1
      refine filter_congr fun b _ => ?_
      by_cases same : b = a
      · simp [same, kept]
      · simp [same]
termination_by items.length
decreasing_by exact Nat.lt_succ_of_le (length_filter_le _ _)

end List

namespace StateChannel

/-! ### One channel more -/

namespace Registry

variable {r other : Registry} {spare : Option String}

theorem isSome_find?_enter (r : Registry) (name asked : String) :
    ((r.enter name).1.find? asked).isSome = true ↔
      asked = name ∨ (r.find? asked).isSome = true := by
  by_cases same : asked = name
  · rw [same, find?_enter]
    simp
  · simp only [same, false_or]
    cases found : r.find? name with
    | some id => simp [enter, found]
    | none =>
      have apart : (name == asked) = false := by simpa using Ne.symm same
      have added : (r.enter name).1 = ⟨r.channels ++ [⟨name, .empty⟩]⟩ := by
        simp [enter, create, found]
      rw [added]
      simp [find?, List.findIdx?_append, apart]

theorem count_enter (r : Registry) (name : String) :
    (r.enter name).1.count = r.count + if (r.find? name).isSome then 0 else 1 := by
  cases found : r.find? name with
  | some id => simp [enter, found]
  | none => simp [enter, create, found, count]

/-- `r` has channels under the names that `other` has, and one more, called `spare`, if there is
such a name. -/
structure Beside (r other : Registry) (spare : Option String) : Prop where
  isSome : ∀ name, (r.find? name).isSome = true ↔
    spare = some name ∨ (other.find? name).isSome = true
  missing : ∀ name, spare = some name → other.find? name = none
  count : r.count = other.count + spare.toList.length

theorem Beside.refl (r : Registry) : r.Beside r none where
  isSome name := by simp
  missing name same := nomatch same
  count := rfl

/-- Entering `name` in both registries keeps them `Beside` each other; a channel called `spare` is
spare no longer once `other` has it too. -/
theorem Beside.enter (beside : r.Beside other spare) (name : String) :
    (r.enter name).1.Beside (other.enter name).1 (if spare = some name then none else spare) := by
  by_cases named : spare = some name
  · -- It has its place in one of them, and gets another one in the other.
    rw [if_pos named]
    have here : (r.find? name).isSome = true := (beside.isSome name).2 (.inl named)
    have there : other.find? name = none := beside.missing name named
    refine ⟨fun asked => ?_, (fun asked same => nomatch same), ?_⟩
    · rw [isSome_find?_enter, isSome_find?_enter, beside.isSome, named, Option.some_inj,
        eq_comm (a := name)]
      simp
    · rw [count_enter, count_enter, here, there, beside.count, named]
      simp
  · -- The name is known to both registries, or new to both.
    rw [if_neg named]
    have alike : (r.find? name).isSome = (other.find? name).isSome := by
      rw [Bool.eq_iff_iff, beside.isSome]
      simp [named]
    refine ⟨fun asked => ?_, fun asked same => ?_, ?_⟩
    · rw [isSome_find?_enter, isSome_find?_enter, beside.isSome]
      exact or_left_comm
    · have apart : asked ≠ name := fun equal => named (equal ▸ same)
      have absent : ¬ ((other.enter name).1.find? asked).isSome = true := by
        rw [isSome_find?_enter, beside.missing asked same]
        simp [apart]
      simpa using absent
    · rw [count_enter, count_enter, alike, beside.count]
      omega

/-- Entering `name` in one registry alone leaves it `Beside` the other, with `name` as its spare
channel unless it was there. -/
theorem beside_enter (r : Registry) (name : String) :
    (r.enter name).1.Beside r (if (r.find? name).isSome then none else some name) := by
  cases found : r.find? name with
  | some id =>
    have same : (r.enter name).1 = r := by simp [enter, found]
    rw [same]
    exact .refl r
  | none =>
    refine ⟨fun asked => ?_, fun asked same => ?_, ?_⟩
    · rw [isSome_find?_enter, eq_comm]
      simp
    · obtain rfl : name = asked := by simpa using same
      exact found
    · rw [count_enter, found]
      rfl

theorem Beside.update (beside : r.Beside other spare) (id id' : LogId) (change : Log → Log) :
    (r.update id change).Beside (other.update id' change) spare where
  isSome name := by
    rw [find?_update, find?_update]
    exact beside.isSome name
  missing name same := by
    rw [find?_update]
    exact beside.missing name same
  count := by
    rw [count_update, count_update]
    exact beside.count

end Registry

/-! ### Hidden readers -/

/-- Without the readers whose ticket is `hidden` the board of `t` is that of `other`, and the
channels of `t` are `Beside` those of `other`. -/
structure Timeline.Hides (hidden : Ticket → Bool) (spare : Option String)
    (t other : Timeline Place) : Prop where
  placed : t.Placed
  placed' : other.Placed
  board : t.board.drop (fun key => hidden key.1) = other.board
  channels : t.registry.Beside other.registry spare

namespace Timeline.Hides

variable {hidden : Ticket → Bool} {spare : Option String} {t other : Timeline Place}

theorem now_eq (hides : t.Hides hidden spare other) : t.now = other.now :=
  congrArg Board.now hides.board

theorem logOf_eq (hides : t.Hides hidden spare other) (name : String) :
    t.registry.logOf name = other.registry.logOf name :=
  congrFun (congrArg Board.log hides.board) name

theorem enter (hides : t.Hides hidden spare other) (channel : String) :
    ({ t with registry := (t.registry.enter channel).1 } : Timeline Place).Hides hidden
      (if spare = some channel then none else spare)
      { other with registry := (other.registry.enter channel).1 } := by
  obtain ⟨entered, same⟩ := hides.placed.enter channel
  obtain ⟨entered', same'⟩ := hides.placed'.enter channel
  exact ⟨entered, entered', by rw [same, same', hides.board], hides.channels.enter channel⟩

theorem append (hides : t.Hides hidden spare other) (channel : String) (message : Json) :
    (t.append channel message).1.Hides hidden (if spare = some channel then none else spare)
      (other.append channel message).1 := by
  obtain ⟨placed, same, _⟩ := hides.placed.append channel message
  obtain ⟨placed', same', _⟩ := hides.placed'.append channel message
  refine ⟨placed, placed', by rw [same, same', Board.drop_append, hides.board], ?_⟩
  exact (hides.channels.enter channel).update (t.registry.enter channel).2
    (other.registry.enter channel).2 (·.append message)

theorem receive (hides : t.Hides hidden spare other) {key : Place} (shown : hidden key.1 = false)
    (channel : String) (start timeout : Nat) :
    (t.receive key channel start timeout).1.Hides hidden
        (if spare = some channel then none else spare)
        (other.receive key channel start timeout).1 ∧
      (t.receive key channel start timeout).2 = (other.receive key channel start timeout).2 := by
  obtain ⟨placed, same, told⟩ := hides.placed.receive key channel start timeout
  obtain ⟨placed', same', told'⟩ := hides.placed'.receive key channel start timeout
  obtain ⟨after, given⟩ := t.board.drop_receive (fun key => hidden key.1) shown channel start timeout
  rw [hides.board] at after given
  refine ⟨⟨placed, placed', by rw [same, same', after], ?_⟩, by rw [told, told', given]⟩
  rw [Timeline.registry_receive, Timeline.registry_receive]
  exact hides.channels.enter channel

/-- A `call` under a ticket that is not `hidden` gives the same in both timelines. -/
theorem invoke (hides : t.Hides hidden spare other) (timeout : Duration) {key : Place}
    (shown : hidden key.1 = false) (call : Call) :
    (Relay.invoke t timeout key call).1.Hides hidden
        (if spare = some call.channel then none else spare)
        (Relay.invoke other timeout key call).1 ∧
      (Relay.invoke t timeout key call).2 = (Relay.invoke other timeout key call).2 := by
  cases call with
  | send channel message => exact ⟨hides.append channel message, rfl⟩
  | getSeq channel =>
    refine ⟨hides.enter channel, ?_⟩
    simp only [Relay.invoke, Timeline.seq, Registry.log_enter, hides.logOf_eq]
  | receive channel start =>
    obtain ⟨after, told⟩ := hides.receive shown channel start.toNat timeout.wait
    exact ⟨after, by simp only [Relay.invoke, told]⟩

theorem resume (hides : t.Hides hidden spare other) :
    t.resume.1.Hides hidden spare other.resume.1 ∧
      (t.resume.2.filter fun d => !hidden d.key.1) = other.resume.2 := by
  obtain ⟨placed, same, told⟩ := hides.placed.resume
  obtain ⟨placed', same', told'⟩ := hides.placed'.resume
  obtain ⟨after, given⟩ := t.board.drop_resumeWhere (fun key => hidden key.1) fun _ => true
  rw [hides.board] at after given
  exact ⟨⟨placed, placed', by rw [same, same', after], hides.channels⟩,
    by rw [told, told', given]⟩

theorem pass (hides : t.Hides hidden spare other) (millis : Nat) :
    (t.pass millis).1.Hides hidden spare (other.pass millis).1 ∧
      ((t.pass millis).2.filter fun d => !hidden d.key.1) = (other.pass millis).2 := by
  obtain ⟨placed, same, told⟩ := hides.placed.pass millis
  obtain ⟨placed', same', told'⟩ := hides.placed'.pass millis
  obtain ⟨after, given⟩ := t.board.drop_pass (fun key => hidden key.1) millis
  rw [hides.board] at after given
  exact ⟨⟨placed, placed', by rw [same, same', after], hides.channels⟩,
    by rw [told, told', given]⟩

theorem drop (hides : t.Hides hidden spare other) (isDropped : Place → Bool) :
    (t.drop isDropped).Hides hidden spare (other.drop isDropped) := by
  obtain ⟨placed, same⟩ := hides.placed.drop isDropped
  obtain ⟨placed', same'⟩ := hides.placed'.drop isDropped
  exact ⟨placed, placed', by rw [same, same', Board.drop_drop, hides.board], hides.channels⟩

end Timeline.Hides

namespace Relay

/-! ### The order in which readers go on -/

section Order

variable (keep : Ticket → Bool) (deliveries : List (Delivery Place))

/-- `gather` keeps its order when only the submissions that `keep` are brought together. -/
theorem gather_filter :
    gather (deliveries.filter fun d => keep d.key.1) =
      (gather deliveries).filter fun d => keep d.key.1 := by
  have tickets : (deliveries.filter fun d => keep d.key.1).map (·.key.1) =
      (deliveries.map (·.key.1)).filter keep := by
    rw [List.filter_map]
    rfl
  -- Of one ticket all deliveries are kept, or none.
  have part (ticket : Ticket) :
      (deliveries.filter fun d => d.key.1 == ticket).filter (fun d => keep d.key.1) =
        if keep ticket then deliveries.filter fun d => d.key.1 == ticket else [] := by
    rw [List.filter_filter]
    by_cases kept : keep ticket = true
    · rw [if_pos kept]
      refine List.filter_congr fun d _ => ?_
      by_cases own : d.key.1 = ticket <;> simp [own, kept]
    · rw [if_neg kept, List.filter_eq_nil_iff]
      intro d _ both
      simp only [Bool.and_eq_true, beq_iff_eq] at both
      exact kept (both.2 ▸ both.1)
  rw [gather, gather, tickets, List.eraseDups_filter, List.filter_flatMap]
  -- The order of the tickets is arbitrary from here on.
  generalize (deliveries.map (·.key.1)).eraseDups = order
  induction order with
  | nil => rfl
  | cons ticket order ih =>
    rw [List.flatMap_cons, part, List.filter_cons]
    by_cases kept : keep ticket = true
    · rw [if_pos kept, if_pos kept, List.flatMap_cons, ih, List.filter_filter]
      congr 1
      refine List.filter_congr fun d _ => ?_
      by_cases own : d.key.1 = ticket <;> simp [own, kept]
    · rw [if_neg kept, if_neg kept, List.nil_append, ih]

/-- `goOnOrder` keeps its order when only the submissions that `keep` go on. -/
theorem goOnOrder_filter (ticket : Ticket) (size : Nat) :
    goOnOrder ticket size (deliveries.filter fun d => keep d.key.1) =
      (goOnOrder ticket size deliveries).filter fun d => keep d.key.1 := by
  have mine : (deliveries.filter fun d => keep d.key.1).filter (fun d => d.key.1 == ticket) =
      (deliveries.filter fun d => d.key.1 == ticket).filter fun d => keep d.key.1 := by
    simp only [List.filter_filter, Bool.and_comm]
  have others : (deliveries.filter fun d => keep d.key.1).filter (not ∘ fun d => d.key.1 == ticket) =
      (deliveries.filter (not ∘ fun d => d.key.1 == ticket)).filter fun d => keep d.key.1 := by
    simp only [List.filter_filter, Bool.and_comm]
  simp only [goOnOrder, List.partition_eq_filter_filter, mine, others, gather_filter]
  split <;> rw [List.filter_append]

theorem Precedes.trans {c d e : Delivery Place} (first : Precedes c d) (second : Precedes d e) :
    Precedes c e := by
  unfold Precedes at *
  rcases first with first | ⟨same, first⟩ <;> rcases second with second | ⟨same', second⟩
  · exact .inl (Nat.lt_trans first second)
  · exact .inl (same' ▸ first)
  · exact .inl (same ▸ second)
  · refine .inr ⟨same.trans same', ?_⟩
    tauto

theorem precedes_total (d e : Delivery Place) : Precedes d e ∨ Precedes e d := by
  unfold Precedes
  have times := Nat.lt_trichotomy d.time e.time
  tauto

/-- Deliveries sorted by `Precedes` keep their order when only those that `keep` leave. -/
theorem sort_filter :
    (deliveries.filter fun d => keep d.key.1).mergeSort (fun d e => decide (Precedes d e)) =
      (deliveries.mergeSort fun d e => decide (Precedes d e)).filter fun d => keep d.key.1 := by
  refine (List.filter_mergeSort ?_ ?_ _ deliveries).symm
  · intro c d e first second
    exact decide_eq_true ((of_decide_eq_true first).trans (of_decide_eq_true second))
  · intro d e
    rw [Bool.or_eq_true]
    exact (precedes_total d e).imp decide_eq_true decide_eq_true

end Order

/-! ### A hidden submission -/

/-- `relay` is `other` apart from one submission with a `hidden` ticket, which is a single request.
The metrics are equal until that request is `counted`, and then it is not in flight any more. -/
structure Hides (hidden : Ticket → Bool) (spare : Option String) (counted : Bool)
    (relay other : Relay) : Prop where
  config : relay.config = other.config
  wording : relay.wording = other.wording
  timeline : relay.timeline.Hides hidden spare other.timeline
  inFlight : relay.inFlight.filter (fun f => !hidden f.ticket) = other.inFlight
  metrics : counted = false → relay.metrics = other.metrics
  one : ∀ first second, hidden first = true → hidden second = true → first = second
  lone : ∀ f ∈ relay.inFlight, hidden f.ticket = true → f.entries.length = 1
  gone : counted = true → ∀ f ∈ relay.inFlight, hidden f.ticket = false

/-- The answers to submissions whose ticket is not `hidden`. -/
def shown (hidden : Ticket → Bool) (finished : List Finished) : List Finished :=
  finished.filter fun x => !hidden x.ticket

theorem shown_filterMap_finished? (hidden : Ticket → Bool) (time : Nat)
    (submissions : List InFlight) :
    shown hidden (submissions.filterMap (finished? time)) =
      (submissions.filter fun f => !hidden f.ticket).filterMap (finished? time) := by
  induction submissions with
  | nil => rfl
  | cons f submissions ih =>
    rw [shown] at ih ⊢
    cases answered : f.response? with
    | none =>
      have none : finished? time f = none := by simp [finished?, answered]
      rw [List.filterMap_cons_none none, ih, List.filter_cons]
      split <;> simp [none]
    | some response =>
      have own : finished? time f = some ⟨f.ticket, response, f.began, time⟩ := by
        simp [finished?, answered]
      rw [List.filterMap_cons_some own, List.filter_cons, List.filter_cons, ih]
      split <;> simp [own]

/-- The metrics may come to differ, from `counted` to `later`, only while there is a hidden
ticket. -/
def Recounts (hidden : Ticket → Bool) (counted later : Bool) : Prop :=
  later = counted ∨ later = true ∧ ∃ ticket, hidden ticket = true

theorem Recounts.refl (hidden : Ticket → Bool) (counted : Bool) : Recounts hidden counted counted :=
  .inl rfl

theorem Recounts.trans {hidden : Ticket → Bool} {counted later last : Bool}
    (first : Recounts hidden counted later) (second : Recounts hidden later last) :
    Recounts hidden counted last := by
  rcases second with rfl | more
  · exact first
  · exact .inr more

theorem Recounts.le {hidden : Ticket → Bool} {counted later : Bool}
    (recounts : Recounts hidden counted later) (before : counted = true) : later = true := by
  rcases recounts with rfl | ⟨after, _⟩
  · exact before
  · exact after

namespace Hides

variable {hidden : Ticket → Bool} {spare : Option String} {counted : Bool}
  {relay other : Relay} {keys : List Place}

/-- Forgetting the submissions that have been answered keeps `Hides`. -/
theorem retire (hides : relay.Hides hidden spare counted other) (time : Nat) :
    ({ relay with inFlight := relay.inFlight.filter fun f => f.response?.isNone } : Relay).Hides
        hidden spare counted
        { other with inFlight := other.inFlight.filter fun f => f.response?.isNone } ∧
      shown hidden (relay.inFlight.filterMap (finished? time)) =
        other.inFlight.filterMap (finished? time) := by
  refine ⟨⟨hides.config, hides.wording, hides.timeline, ?_, hides.metrics, hides.one, ?_, ?_⟩, ?_⟩
  · rw [← hides.inFlight]
    simp only [List.filter_filter, Bool.and_comm]
  · exact fun f inside => hides.lone f (List.mem_filter.1 inside).1
  · exact fun counted f inside => hides.gone counted f (List.mem_filter.1 inside).1
  · rw [shown_filterMap_finished?, hides.inFlight]

/-- Settling a delivery `d` that is not `hidden` keeps `Hides`. -/
theorem settle (hides : relay.Hides hidden spare counted other) {d : Delivery Place}
    (seen : hidden d.key.1 = false) :
    (relay.settle d).Hides hidden spare counted (other.settle d) := by
  -- The submission that the delivery is for is not hidden, so it is found in both.
  have found : other.inFlight.find? (fun f => f.ticket == d.key.1) =
      relay.inFlight.find? fun f => f.ticket == d.key.1 := by
    rw [← hides.inFlight, List.find?_filter]
    congr 1
    funext f
    by_cases same : f.ticket = d.key.1 <;> simp [same, seen]
  cases holder : relay.inFlight.find? fun f => f.ticket == d.key.1 with
  | none =>
    rw [holder] at found
    simpa only [Relay.settle, holder, found] using hides
  | some f =>
    rw [holder] at found
    simp only [Relay.settle, holder, found]
    have ticket (g : InFlight) (answer : Option Json) :
        (if g.ticket = d.key.1 then g.settle d.key.2 answer else g).ticket = g.ticket := by
      split <;> rfl
    have entries (g : InFlight) (answer : Option Json) :
        (if g.ticket = d.key.1 then g.settle d.key.2 answer else g).entries.length =
          g.entries.length := by
      split
      · exact List.length_set
      · rfl
    -- Settling keeps tickets and the number of entries, and they are all that hiding speaks of.
    refine ⟨hides.config, hides.wording, hides.timeline, ?_, ?_, hides.one, ?_, ?_⟩
    · rw [List.filter_map, ← hides.inFlight]
      simp only [Function.comp_def, ticket]
    · intro uncounted
      rw [hides.metrics uncounted]
    · intro _ changed own
      obtain ⟨g, inside, rfl⟩ := List.mem_map.1 changed
      rw [ticket] at own
      rw [entries]
      exact hides.lone g inside own
    · intro counted _ changed
      obtain ⟨g, inside, rfl⟩ := List.mem_map.1 changed
      rw [ticket]
      exact hides.gone counted g inside

/-- Settling a `hidden` delivery `d` in `relay` alone takes its submission along and keeps
`Hides`. -/
theorem settle_hidden (hides : relay.Hides hidden spare counted other) {d : Delivery Place}
    (unseen : hidden d.key.1 = true) (attends : relay.Attends (d.key :: keys))
    (unanswered : ∀ f ∈ relay.inFlight, f.response? = none) :
    ({ relay.settle d with inFlight :=
        (relay.settle d).inFlight.filter fun f => f.response?.isNone } : Relay).Hides
          hidden spare true other ∧
      shown hidden ((relay.settle d).inFlight.filterMap (finished? d.time)) = [] := by
  obtain ⟨f, inside, named, id, found, noted⟩ := attends.inFlight_settle List.mem_cons_self
  have others : (relay.settle d).inFlight.filter (fun g => !hidden g.ticket) = other.inFlight := by
    rw [noted, List.filter_map, ← hides.inFlight]
    simp only [Function.comp_def, InFlight.ticket_settleAt]
    refine (List.map_congr_left fun g inside => ?_).trans (List.map_id _)
    have apart : g.ticket ≠ d.key.1 := by
      intro same
      have seen := (List.mem_filter.1 inside).2
      rw [same, unseen] at seen
      exact Bool.noConfusion seen
    simp [InFlight.settleAt, apart]
  have quiet : ∀ g ∈ other.inFlight, g.response? = none := by
    intro g inside
    rw [← hides.inFlight] at inside
    exact unanswered g (List.mem_filter.1 inside).1
  -- The hidden submission was waiting for this alone.
  have answered : ∀ g ∈ (relay.settle d).inFlight, hidden g.ticket = true → g.response? ≠ none := by
    intro g changed own none
    rw [noted] at changed
    obtain ⟨g, inside', rfl⟩ := List.mem_map.1 changed
    rw [InFlight.ticket_settleAt] at own
    obtain rfl := eq_of_ticket attends.apart inside' inside
      (hides.one _ _ own (named ▸ unseen))
    obtain ⟨index, id', waits⟩ := InFlight.response?_eq_none_iff.1 none
    rw [InFlight.getElem?_settleAt] at waits
    have single := hides.lone g inside own
    have bound : d.key.2 < g.entries.length := (List.getElem?_eq_some_iff.1 found).1
    by_cases here : (g.ticket, index) = d.key
    · rw [if_pos here] at waits
      cases entry : g.entries[index]? <;> simp [entry] at waits
    · rw [if_neg here] at waits
      have bound' : index < g.entries.length := (List.getElem?_eq_some_iff.1 waits).1
      exact here (Prod.ext named (by dsimp only; omega))
  refine ⟨⟨?_, ?_, ?_, ?_, Bool.noConfusion, hides.one, ?_, fun _ => ?_⟩, ?_⟩
  · exact (config_settle relay d).trans hides.config
  · exact (wording_settle relay d).trans hides.wording
  · show (relay.settle d).timeline.Hides _ _ _
    rw [timeline_settle]
    exact hides.timeline
  · have swapped : ((relay.settle d).inFlight.filter fun g => g.response?.isNone).filter
          (fun g => !hidden g.ticket) =
        ((relay.settle d).inFlight.filter fun g => !hidden g.ticket).filter
          fun g => g.response?.isNone := by
      simp only [List.filter_filter, Bool.and_comm]
    rw [swapped, others]
    exact List.filter_eq_self.2 fun g inside => by rw [quiet g inside]; rfl
  · intro g inside own
    obtain ⟨inside, none⟩ := List.mem_filter.1 inside
    exact absurd (by simpa using none) (answered g inside own)
  · intro g inside
    obtain ⟨inside, none⟩ := List.mem_filter.1 inside
    by_contra own
    exact answered g inside (by simpa using own) (by simpa using none)
  · rw [shown_filterMap_finished?, others]
    exact List.filterMap_eq_nil_iff.2 fun g inside => by rw [finished?, quiet g inside]; rfl

/-- Settling `deliveries` in `relay`, and in `other` those that are not `hidden`, keeps `Hides`,
and what is `shown` is the same. -/
theorem settleAll (hides : relay.Hides hidden spare counted other)
    {deliveries : List (Delivery Place)}
    (attends : relay.Attends (deliveries.map (·.key) ++ keys))
    (unanswered : ∀ f ∈ relay.inFlight, f.response? = none) :
    ∃ later, Recounts hidden counted later ∧
      (relay.settleAll deliveries).1.Hides hidden spare later
        (other.settleAll (deliveries.filter fun d => !hidden d.key.1)).1 ∧
      shown hidden (relay.settleAll deliveries).2 =
        (other.settleAll (deliveries.filter fun d => !hidden d.key.1)).2 := by
  -- What is told to the hidden reader is counted in one of them alone, and from then on the counts
  -- may differ.
  induction deliveries generalizing relay other counted with
  | nil => exact ⟨counted, .refl _ _, hides, rfl⟩
  | cons d deliveries ih =>
    have quiet : ∀ f ∈ (relay.settle d).inFlight.filter (fun f => f.response?.isNone),
        f.response? = none := fun f inside => by simpa using (List.mem_filter.1 inside).2
    cases own : hidden d.key.1 with
    | true =>
      obtain ⟨after, silent⟩ := hides.settle_hidden own attends unanswered
      obtain ⟨later, counts, all, answers⟩ := ih after attends.settle.retire quiet
      rw [List.filter_cons_of_neg (by simp [own])]
      refine ⟨later, .inr ⟨counts.le rfl, d.key.1, own⟩, all, ?_⟩
      exact (List.filter_append _ _).trans (congrArg₂ (· ++ ·) silent answers)
    | false =>
      obtain ⟨after, told⟩ := (hides.settle own).retire d.time
      obtain ⟨later, counts, all, answers⟩ := ih after attends.settle.retire quiet
      rw [List.filter_cons_of_pos (by simp [own])]
      refine ⟨later, counts, all, ?_⟩
      exact (List.filter_append _ _).trans (congrArg₂ (· ++ ·) told answers)

/-- Letting woken readers go on keeps `Hides`, and what is `shown` is the same. -/
theorem resume (hides : relay.Hides hidden spare counted other)
    (attends : relay.Attends (relay.timeline.readers.map (·.key)))
    (unanswered : ∀ f ∈ relay.inFlight, f.response? = none) (ticket : Ticket) (size : Nat) :
    ∃ later, Recounts hidden counted later ∧
      (relay.resume ticket size).1.Hides hidden spare later (other.resume ticket size).1 ∧
      shown hidden (relay.resume ticket size).2 = (other.resume ticket size).2 := by
  obtain ⟨after, told⟩ := hides.timeline.resume
  have leaving := (attends.perm (relay.map_key_resume ticket size)).congr
    { relay with timeline := relay.timeline.resume.1 } rfl
  have begun : ({ relay with timeline := relay.timeline.resume.1 } : Relay).Hides hidden spare
      counted { other with timeline := other.timeline.resume.1 } :=
    ⟨hides.config, hides.wording, after, hides.inFlight, hides.metrics, hides.one, hides.lone,
      hides.gone⟩
  have gone := begun.settleAll leaving unanswered
  -- Without the hidden readers the others go on in the order in which they go on in the other relay.
  rw [← goOnOrder_filter (fun ticket => !hidden ticket), told] at gone
  exact gone

/-- Letting `millis` pass keeps `Hides`, and what is `shown` is the same. -/
theorem pass (hides : relay.Hides hidden spare counted other) (steady : relay.Steady)
    (millis : Nat) :
    ∃ later, Recounts hidden counted later ∧
      (relay.pass millis).1.Hides hidden spare later (other.pass millis).1 ∧
      shown hidden (relay.pass millis).2 = (other.pass millis).2 := by
  obtain ⟨after, told⟩ := hides.timeline.pass millis
  have leaving := (steady.attends.perm (relay.map_key_pass millis)).congr
    { relay with timeline := (relay.timeline.pass millis).1 } rfl
  have begun : ({ relay with timeline := (relay.timeline.pass millis).1 } : Relay).Hides hidden
      spare counted { other with timeline := (other.timeline.pass millis).1 } :=
    ⟨hides.config, hides.wording, after, hides.inFlight, hides.metrics, hides.one, hides.lone,
      hides.gone⟩
  have gone := begun.settleAll leaving steady.unanswered
  rw [← gather_filter (fun ticket => !hidden ticket),
    ← sort_filter (fun ticket => !hidden ticket), told] at gone
  exact gone

/-- Starting an `entry` at a `key` that is not `hidden` keeps `Hides` and comes as far in both. -/
theorem startEntry (hides : relay.Hides hidden spare counted other) {key : Place}
    (seen : hidden key.1 = false) (entry : Entry) :
    ∃ left, (spare = none → left = none) ∧
      (relay.startEntry key entry).1.Hides hidden left counted (other.startEntry key entry).1 ∧
      (relay.startEntry key entry).2 = (other.startEntry key entry).2 := by
  obtain ⟨config, wording, timeline, metrics, inFlight⟩ := other
  obtain rfl : relay.config = config := hides.config
  obtain rfl : relay.wording = wording := hides.wording
  -- What is counted in both is counted alike.
  have counting {left : Option String} {t t' : Timeline Place} (after : t.Hides hidden left t')
      (id : Option Json) (outcome : Except ApiError Outcome) :
      ({ relay with timeline := t, metrics := countCall relay.metrics id outcome 0 } : Relay).Hides
        hidden left counted
          ⟨relay.config, relay.wording, t', countCall metrics id outcome 0, inFlight⟩ :=
    ⟨rfl, rfl, after, hides.inFlight, fun uncounted => by rw [hides.metrics uncounted],
      hides.one, hides.lone, hides.gone⟩
  cases entry with
  | refused answer => exact ⟨spare, id, hides, rfl⟩
  | call id method params =>
    cases routed : Call.route method params with
    | error e =>
      simp only [Relay.startEntry, routed]
      exact ⟨spare, fun none => none, counting hides.timeline id (.error e), trivial⟩
    | ok call =>
      obtain ⟨after, given⟩ := hides.timeline.invoke relay.config.receiveTimeout seen call
      simp only [Relay.startEntry, routed, ← given]
      refine ⟨if spare = some call.channel then none else spare, fun none => by simp [none], ?_⟩
      cases (invoke relay.timeline relay.config.receiveTimeout key call).2 with
      | some outcome => exact ⟨counting after id (.ok outcome), rfl⟩
      | none =>
        refine ⟨?_, rfl⟩
        exact ⟨rfl, rfl, after, hides.inFlight, hides.metrics, hides.one, hides.lone, hides.gone⟩

theorem startEntries (hides : relay.Hides hidden spare counted other) {ticket : Ticket}
    (seen : hidden ticket = false) (entries : List Entry) (first : Nat) :
    ∃ left, (spare = none → left = none) ∧
      (relay.startEntries ticket entries first).1.Hides hidden left counted
        (other.startEntries ticket entries first).1 ∧
      (relay.startEntries ticket entries first).2 =
        (other.startEntries ticket entries first).2 := by
  induction entries generalizing relay other spare first with
  | nil => exact ⟨spare, id, hides, rfl⟩
  | cons entry entries ih =>
    obtain ⟨left, fewer, started, progress⟩ :=
      hides.startEntry (show hidden (ticket, first).1 = false from seen) entry
    obtain ⟨last, fewer', all, rest⟩ := ih started (first + 1)
    refine ⟨last, fun none => fewer' (fewer none), all, ?_⟩
    simp only [Relay.startEntries, progress, rest]

/-- Submitting `entries` under a `ticket` that is not `hidden` keeps `Hides`, and what is `shown`
is the same. -/
theorem submit (hides : relay.Hides hidden spare counted other) (steady : relay.Steady)
    {ticket : Ticket} (seen : hidden ticket = false)
    (fresh : ∀ f ∈ relay.inFlight, f.ticket ≠ ticket) (isBatch : Bool) (entries : List Entry) :
    ∃ left later, (spare = none → left = none) ∧ Recounts hidden counted later ∧
      (relay.submit ticket isBatch entries).1.Hides hidden left later
        (other.submit ticket isBatch entries).1 ∧
      shown hidden (relay.submit ticket isBatch entries).2 =
        (other.submit ticket isBatch entries).2 := by
  have unanswered : ∀ f ∈ other.inFlight, f.response? = none := by
    intro f inside
    rw [← hides.inFlight] at inside
    exact steady.unanswered f (List.mem_filter.1 inside).1
  obtain ⟨left, fewer, started, progress⟩ := hides.startEntries seen entries 0
  -- Both relays take the submission in, forget what is answered, and let woken readers go on.
  have begun : relay.begun ticket isBatch entries = other.begun ticket isBatch entries := by
    rw [Relay.begun, Relay.begun, progress, started.timeline.now_eq]
  have taken : (relay.taking ticket isBatch entries).Hides hidden left counted
      (other.taking ticket isBatch entries) := by
    refine ⟨started.config, started.wording, started.timeline, ?_, started.metrics, started.one, ?_,
      ?_⟩
    · simp only [Relay.taking, List.filter_append, hides.inFlight, ← begun]
      simp [Relay.begun, seen]
    · intro f inside own
      rcases List.mem_append.1 inside with old | new
      · exact hides.lone f old own
      · rw [List.mem_singleton.1 new] at own
        exact absurd (seen.symm.trans own) Bool.false_ne_true
    · intro counted f inside
      rcases List.mem_append.1 inside with old | new
      · exact hides.gone counted f old
      · rw [List.mem_singleton.1 new]
        exact seen
  obtain ⟨retired, told⟩ := taken.retire (relay.taking ticket isBatch entries).timeline.now
  obtain ⟨later, counts, resumed, answers⟩ := retired.resume
    (steady.attends_taking fresh isBatch entries).retire
    (fun f inside => by simpa using (List.mem_filter.1 inside).2) ticket entries.length
  rw [submit_eq steady.unanswered, submit_eq unanswered]
  refine ⟨left, later, fewer, counts, resumed, ?_⟩
  rw [← taken.timeline.now_eq]
  exact (List.filter_append _ _).trans (congrArg₂ (· ++ ·) told answers)

end Hides

/-! ### Operations -/

/-- Two answers that are the same, or answer the same request for `/health` or `/metrics` among
`operations`. The former may differ only if `more` holds, the latter only if `recounted` does. -/
inductive Alike (operations : List Operation) (more recounted : Prop) : Finished → Finished → Prop
  | same (x : Finished) : Alike operations more recounted x x
  /-- `relay` has exactly one channel more than `other`. -/
  | health {ticket : Ticket} {request : HttpRequest} {headOnly : Bool} {relay other : Relay}
      {now : Nat} (possible : more) (asked : .begin ticket request ∈ operations)
      (route : request.route = .health headOnly)
      (count : relay.timeline.registry.count = other.timeline.registry.count + 1) :
      Alike operations more recounted ⟨ticket, readOnly headOnly relay.health, now, now⟩
        ⟨ticket, readOnly headOnly other.health, now, now⟩
  | metrics {ticket : Ticket} {request : HttpRequest} {headOnly : Bool} {counts counts' : Metrics}
      {now : Nat} (possible : recounted) (asked : .begin ticket request ∈ operations)
      (route : request.route = .metrics headOnly) :
      Alike operations more recounted ⟨ticket, readOnly headOnly counts.toJson, now, now⟩
        ⟨ticket, readOnly headOnly counts'.toJson, now, now⟩

theorem Alike.mono {operations operations' : List Operation} {more more' recounted recounted' : Prop}
    {x y : Finished} (alike : Alike operations more recounted x y)
    (all : ∀ operation ∈ operations, operation ∈ operations') (channels : more → more')
    (counters : recounted → recounted') : Alike operations' more' recounted' x y := by
  cases alike with
  | same => exact .same _
  | health possible asked route count =>
    exact .health (channels possible) (all _ asked) route count
  | metrics possible asked route => exact .metrics (counters possible) (all _ asked) route

theorem forall₂_alike_same (operations : List Operation) (more recounted : Prop)
    (finished : List Finished) :
    List.Forall₂ (Alike operations more recounted) finished finished :=
  List.forall₂_same.2 fun x _ => .same x

namespace Hides

variable {hidden : Ticket → Bool} {spare : Option String} {counted : Bool} {relay other : Relay}

theorem health_eq (hides : relay.Hides hidden none counted other) :
    relay.health = other.health := by
  have count : relay.timeline.registry.count = other.timeline.registry.count :=
    hides.timeline.channels.count
  rw [Relay.health, Relay.health, count]

/-- The submission of `request` is the same in both relays, or it asks for `/health` and there is a
`spare` channel, or it asks for `/metrics` and the hidden request has been `counted`. -/
theorem submission (hides : relay.Hides hidden spare counted other) (request : HttpRequest) :
    relay.submission request = other.submission request ∨
      ∃ headOnly,
        (request.route = .health headOnly ∧ spare ≠ none ∧
          relay.submission request = .answered (readOnly headOnly relay.health) ∧
          other.submission request = .answered (readOnly headOnly other.health)) ∨
        (request.route = .metrics headOnly ∧ counted = true ∧
          relay.submission request = .answered (readOnly headOnly relay.metrics.toJson) ∧
          other.submission request = .answered (readOnly headOnly other.metrics.toJson)) := by
  simp only [Relay.submission, ← hides.config, ← hides.wording]
  -- Only the pages that show names or counters can tell the two relays apart.
  by_cases long : request.IsOverAnnounced relay.config
  · exact .inl (by rw [if_pos long, if_pos long])
  · rw [if_neg long, if_neg long]
    cases route : request.route with
    | calls => exact .inl rfl
    | wrongMethod => exact .inl rfl
    | missing => exact .inl rfl
    | health headOnly =>
      by_cases none : spare = none
      · subst none
        exact .inl (by rw [hides.health_eq])
      · exact .inr ⟨headOnly, .inl ⟨rfl, none, rfl, rfl⟩⟩
    | metrics headOnly =>
      cases counts : counted with
      | false => exact .inl (by rw [hides.metrics counts])
      | true => exact .inr ⟨headOnly, .inr ⟨rfl, rfl, rfl, rfl⟩⟩

/-- Beginning `request` under a `ticket` that is not `hidden` keeps `Hides`, and the answers are
`Alike`. -/
theorem begin (hides : relay.Hides hidden spare counted other) (steady : relay.Steady)
    {ticket : Ticket} (seen : hidden ticket = false)
    (fresh : ∀ f ∈ relay.inFlight, f.ticket ≠ ticket) (request : HttpRequest) :
    ∃ left later, (spare = none → left = none) ∧ Recounts hidden counted later ∧
      (relay.begin ticket request).1.Hides hidden left later (other.begin ticket request).1 ∧
      List.Forall₂ (Alike [.begin ticket request] (spare ≠ none) (later = true))
        (shown hidden (relay.begin ticket request).2) (other.begin ticket request).2 := by
  have shows (response : HttpResponse) (now : Nat) :
      shown hidden [⟨ticket, response, now, now⟩] = [⟨ticket, response, now, now⟩] := by
    simp [shown, seen]
  rcases hides.submission request with same | ⟨headOnly, ⟨route, more, asks, asks'⟩ |
    ⟨route, counts, asks, asks'⟩⟩
  · cases asks : relay.submission request with
    | answered response =>
      have asks' := same.symm.trans asks
      simp only [Relay.begin, asks, asks', shows, hides.timeline.now_eq]
      exact ⟨spare, counted, id, .refl _ _, hides, forall₂_alike_same _ _ _ _⟩
    | single entry =>
      have asks' := same.symm.trans asks
      obtain ⟨left, later, fewer, counts, after, answers⟩ :=
        hides.submit steady seen fresh false [entry]
      simp only [Relay.begin, asks, asks', answers]
      exact ⟨left, later, fewer, counts, after, forall₂_alike_same _ _ _ _⟩
    | batch entries =>
      have asks' := same.symm.trans asks
      obtain ⟨left, later, fewer, counts, after, answers⟩ :=
        hides.submit steady seen fresh true entries
      simp only [Relay.begin, asks, asks', answers]
      exact ⟨left, later, fewer, counts, after, forall₂_alike_same _ _ _ _⟩
  -- Only those who ask for the health or the counters can see a difference.
  · obtain ⟨name, named⟩ := Option.ne_none_iff_exists'.1 more
    have count := hides.timeline.channels.count
    rw [named] at count
    simp only [Relay.begin, asks, asks', shows, hides.timeline.now_eq]
    exact ⟨spare, counted, id, .refl _ _, hides,
      .cons (.health more List.mem_cons_self route count) .nil⟩
  · simp only [Relay.begin, asks, asks', shows, hides.timeline.now_eq]
    exact ⟨spare, counted, id, .refl _ _, hides,
      .cons (.metrics counts List.mem_cons_self route) .nil⟩

/-- Aborting `ticket` in both relays keeps `Hides`. -/
theorem abort (hides : relay.Hides hidden spare counted other) (ticket : Ticket) :
    (relay.abort ticket).Hides hidden spare counted (other.abort ticket) where
  config := hides.config
  wording := hides.wording
  timeline := hides.timeline.drop fun key => key.1 == ticket
  inFlight := by
    rw [Relay.abort, Relay.abort, ← hides.inFlight]
    simp only [List.filter_filter, Bool.and_comm]
  metrics := hides.metrics
  one := hides.one
  lone f inside := hides.lone f (List.mem_filter.1 inside).1
  gone counted f inside := hides.gone counted f (List.mem_filter.1 inside).1

/-- An `operation` that does not use a `hidden` ticket keeps `Hides`, and the answers are
`Alike`. -/
theorem operate (hides : relay.Hides hidden spare counted other) (steady : relay.Steady)
    {operation : Operation}
    (fresh : ∀ ticket request, operation = .begin ticket request →
      ∀ f ∈ relay.inFlight, f.ticket ≠ ticket)
    (seen : ∀ ticket, operation.ticket? = some ticket → hidden ticket = false) :
    ∃ left later, (spare = none → left = none) ∧ Recounts hidden counted later ∧
      (relay.operate operation).1.Hides hidden left later (other.operate operation).1 ∧
      List.Forall₂ (Alike [operation] (spare ≠ none) (later = true))
        (shown hidden (relay.operate operation).2) (other.operate operation).2 := by
  cases operation with
  | begin ticket request =>
    exact hides.begin steady (seen ticket rfl) (fresh ticket request rfl) request
  | abort ticket => exact ⟨spare, counted, id, .refl _ _, hides.abort ticket, .nil⟩
  | pass millis =>
    obtain ⟨later, counts, after, answers⟩ := hides.pass steady millis
    refine ⟨spare, later, id, counts, after, ?_⟩
    show List.Forall₂ _ (shown hidden (relay.pass millis).2) _
    rw [answers]
    exact forall₂_alike_same _ _ _ _

/-- `operations` that use no `hidden` ticket keep `Hides`, are admitted in `other` too, and give
answers that are `Alike`. -/
theorem operateAll (hides : relay.Hides hidden spare counted other) (steady : relay.Steady)
    {operations : List Operation} (admits : relay.Admits operations)
    (seen : ∀ operation ∈ operations, ∀ ticket, operation.ticket? = some ticket →
      hidden ticket = false) :
    ∃ left later, (spare = none → left = none) ∧ Recounts hidden counted later ∧
      (relay.operateAll operations).1.Hides hidden left later (other.operateAll operations).1 ∧
      other.Admits operations ∧
      List.Forall₂ (Alike operations (spare ≠ none) (later = true))
        (shown hidden (relay.operateAll operations).2) (other.operateAll operations).2 := by
  induction operations generalizing relay other spare counted with
  | nil => exact ⟨spare, counted, id, .refl _ _, hides, trivial, .nil⟩
  | cons operation operations ih =>
    obtain ⟨left, later, fewer, counts, after, answers⟩ :=
      hides.operate steady admits.1 (seen operation List.mem_cons_self)
    obtain ⟨last, final, fewer', counts', all, admits', rest⟩ := ih after (steady.operate admits.1)
      admits.2 fun next member => seen next (List.mem_cons_of_mem operation member)
    refine ⟨last, final, fun none => fewer' (fewer none), counts.trans counts', all,
      ⟨fun ticket request same f inside => ?_, admits'⟩, ?_⟩
    · -- A ticket in use without the hidden submissions is also in use with them.
      rw [← hides.inFlight] at inside
      exact admits.1 ticket request same f (List.mem_filter.1 inside).1
    · -- What may differ may go on differing, so both halves are read with the final `counted`.
      have first : List.Forall₂ (Alike (operation :: operations) (spare ≠ none) (final = true))
          (shown hidden (relay.operate operation).2) (other.operate operation).2 :=
        answers.imp fun x y alike => alike.mono (by simp) id counts'.le
      have others : List.Forall₂ (Alike (operation :: operations) (spare ≠ none) (final = true))
          (shown hidden ((relay.operate operation).1.operateAll operations).2)
          ((other.operate operation).1.operateAll operations).2 :=
        rest.imp fun x y alike => alike.mono (fun next => List.mem_cons_of_mem operation)
          (fun more none => more (fewer none)) id
      have both := List.rel_append first others
      rw [Relay.operateAll, Relay.operateAll, shown, List.filter_append]
      exact both

end Hides

end Relay

end StateChannel
