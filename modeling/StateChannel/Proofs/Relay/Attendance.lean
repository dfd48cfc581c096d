import StateChannel.Proofs.Relay.Operations

/-!
# Who waits at a relay

Every request that a relay has not answered has a reader that waits for it, and every reader waits
for such a request. A submission is answered when the last of its readers has left, and then only
once.

## Main definitions

* `Relay.WaitsAt`, `Relay.Attends`: the requests that wait, and that they are those of some readers
* `Relay.responsesTo`: the responses to a submission
* `Relay.Tracks`: a submission is being worked on and has some property, or has been answered

## Main results

* `Relay.Attends.settleAll`: readers that leave take their requests along
* `Relay.Tracks.settleAll`: what they are told is noted, and what has been answered is told once
-/

namespace StateChannel

/-! ### Submissions -/

namespace InFlight

theorem response?_eq_none_iff {f : InFlight} :
    f.response? = none ↔ ∃ (index : Nat) (id : Option Json),
      f.entries[index]? = some (.waiting id) := by
  constructor
  · intro unanswered
    have none := Option.map_eq_none_iff.1 unanswered
    clear unanswered
    -- The answers are gathered in order, and an entry that waits is where the gathering stops.
    generalize f.entries = entries at none ⊢
    induction entries with
    | nil => exact nomatch none
    | cons first entries ih =>
      cases first with
      | waiting id => exact ⟨0, id, rfl⟩
      | done answer =>
        cases rest : entries.mapM Progress.answer? with
        | none =>
          obtain ⟨index, id, found⟩ := ih rest
          exact ⟨index + 1, id, found⟩
        | some answers => simp [Progress.answer?, rest] at none
  · rintro ⟨index, id, found⟩
    exact response?_of_waiting (List.mem_of_getElem? found) rfl

end InFlight

namespace Relay

variable {relay : Relay} {keys : List Place} {ticket : Ticket}

/-- A request waits at `key`: the submission with its ticket has a `.waiting` entry there. -/
def WaitsAt (relay : Relay) (key : Place) : Prop :=
  ∃ f ∈ relay.inFlight, f.ticket = key.1 ∧ ∃ id, f.entries[key.2]? = some (.waiting id)

/-- No two submissions have one ticket, and the places where requests wait are `keys`, each
once. -/
structure Attends (relay : Relay) (keys : List Place) : Prop where
  apart : (relay.inFlight.map InFlight.ticket).Nodup
  distinct : keys.Nodup
  waits : ∀ key, key ∈ keys ↔ relay.WaitsAt key

/-- After `settleAt done` the requests that wait are those at the other places. -/
theorem waitsAt_settleAt (relay : Relay) (key done : Place) (answer : Option Json) :
    ({ relay with inFlight := relay.inFlight.map fun f => f.settleAt done answer } :
      Relay).WaitsAt key ↔ relay.WaitsAt key ∧ key ≠ done := by
  -- Settling changes the entry at `done` alone, and no ticket.
  have found (f : InFlight) (named : f.ticket = key.1) (id : Option Json) :
      (f.settleAt done answer).entries[key.2]? = some (.waiting id) ↔
        f.entries[key.2]? = some (.waiting id) ∧ key ≠ done := by
    obtain ⟨ticket, place⟩ := key
    rw [InFlight.getElem?_settleAt, named]
    by_cases here : (ticket, place) = done
    · cases f.entries[place]? <;> simp [here]
    · simp [here]
  constructor
  · rintro ⟨_, changed, named, id, waiting⟩
    obtain ⟨f, inside, rfl⟩ := List.mem_map.1 changed
    rw [InFlight.ticket_settleAt] at named
    obtain ⟨waiting, apart⟩ := (found f named id).1 waiting
    exact ⟨⟨f, inside, named, id, waiting⟩, apart⟩
  · rintro ⟨⟨f, inside, named, id, waiting⟩, apart⟩
    exact ⟨_, List.mem_map_of_mem inside, (InFlight.ticket_settleAt f _ _).trans named, id,
      (found f named id).2 ⟨waiting, apart⟩⟩

theorem eq_of_ticket (apart : (relay.inFlight.map InFlight.ticket).Nodup) {f g : InFlight}
    (first : f ∈ relay.inFlight) (second : g ∈ relay.inFlight) (same : f.ticket = g.ticket) :
    f = g :=
  List.inj_on_of_nodup_map apart first second same

/-- The submission `f` is the only one with its ticket. -/
theorem filter_ticket (apart : (relay.inFlight.map InFlight.ticket).Nodup) {f : InFlight}
    (inside : f ∈ relay.inFlight) :
    (relay.inFlight.filter fun g => g.ticket == f.ticket) = [f] := by
  have distinct := (List.Nodup.of_map _ apart).filter fun g => g.ticket == f.ticket
  refine List.perm_singleton.1
    ((List.perm_ext_iff_of_nodup distinct (List.nodup_singleton f)).2 fun g => ?_)
  rw [List.mem_filter, List.mem_singleton]
  constructor
  · rintro ⟨held, same⟩
    exact eq_of_ticket apart held inside (eq_of_beq same)
  · rintro rfl
    exact ⟨inside, beq_self_eq_true _⟩

namespace Attends

theorem perm (attends : relay.Attends keys) {others : List Place} (perm : others.Perm keys) :
    relay.Attends others where
  apart := attends.apart
  distinct := perm.nodup_iff.2 attends.distinct
  waits key := perm.mem_iff.trans (attends.waits key)

/-- `Attends` depends on `inFlight` only. -/
theorem congr (attends : relay.Attends keys) (other : Relay)
    (same : other.inFlight = relay.inFlight) : other.Attends keys where
  apart := same ▸ attends.apart
  distinct := attends.distinct
  waits key := by
    rw [WaitsAt, same]
    exact attends.waits key

/-- A submission `f` with a new ticket, whose entries wait at the places `new`, adds those to
`keys`. -/
theorem add (attends : relay.Attends keys) {f : InFlight}
    (fresh : ∀ g ∈ relay.inFlight, g.ticket ≠ f.ticket) {new : List Place} (distinct : new.Nodup)
    (waits : ∀ key, key ∈ new ↔ key.1 = f.ticket ∧ ∃ id, f.entries[key.2]? = some (.waiting id)) :
    ({ relay with inFlight := relay.inFlight ++ [f] } : Relay).Attends (keys ++ new) where
  apart := by
    rw [List.map_append, List.nodup_append]
    refine ⟨attends.apart, List.nodup_singleton _, ?_⟩
    intro first member second single
    obtain ⟨g, inside, rfl⟩ := List.mem_map.1 member
    rw [List.mem_singleton.1 single]
    exact fresh g inside
  distinct := by
    -- The new submission has a ticket of its own, so it shares no place with the others.
    refine List.nodup_append.2 ⟨attends.distinct, distinct, ?_⟩
    rintro key member _ newly rfl
    obtain ⟨g, inside, named, _⟩ := (attends.waits key).1 member
    exact fresh g inside (named.trans ((waits key).1 newly).1)
  waits key := by
    rw [List.mem_append, attends.waits, waits]
    simp only [WaitsAt, List.mem_append, List.mem_singleton, or_and_right, exists_or,
      exists_eq_left, eq_comm (a := key.1)]

/-- Submissions that have a response can be forgotten: none of their requests waits. -/
theorem retire (attends : relay.Attends keys) :
    ({ relay with inFlight := relay.inFlight.filter fun f => f.response?.isNone } : Relay).Attends
      keys where
  apart := attends.apart.sublist (List.filter_sublist.map _)
  distinct := attends.distinct
  waits key := by
    rw [attends.waits]
    constructor
    · rintro ⟨f, inside, named, id, found⟩
      refine ⟨f, List.mem_filter.2 ⟨inside, ?_⟩, named, id, found⟩
      rw [InFlight.response?_eq_none_iff.2 ⟨key.2, id, found⟩]
      rfl
    · rintro ⟨f, inside, waiting⟩
      exact ⟨f, (List.mem_filter.1 inside).1, waiting⟩

theorem abort (attends : relay.Attends keys) (ticket : Ticket) :
    (relay.abort ticket).Attends (keys.filter fun key => !(key.1 == ticket)) where
  apart := attends.apart.sublist (List.filter_sublist.map _)
  distinct := attends.distinct.filter _
  waits key := by
    rw [List.mem_filter, attends.waits]
    constructor
    · rintro ⟨⟨f, inside, named, waiting⟩, kept⟩
      exact ⟨f, List.mem_filter.2 ⟨inside, named ▸ kept⟩, named, waiting⟩
    · rintro ⟨f, inside, named, waiting⟩
      obtain ⟨inside, kept⟩ := List.mem_filter.1 inside
      exact ⟨⟨f, inside, named, waiting⟩, named ▸ kept⟩

/-- Settling a delivery `d` to a place where a request waits is `settleAt` in the submission of its
ticket, with the answer to its `id`. -/
theorem inFlight_settle {d : Delivery Place} (attends : relay.Attends keys) (here : d.key ∈ keys) :
    ∃ f ∈ relay.inFlight, f.ticket = d.key.1 ∧ ∃ id,
      f.entries[d.key.2]? = some (.waiting id) ∧
      (relay.settle d).inFlight = relay.inFlight.map fun g =>
        g.settleAt d.key (Entry.answer id (.ok (.received d.slice))) := by
  obtain ⟨f, inside, named, id, found⟩ := (attends.waits d.key).1 here
  have only : relay.inFlight.find? (fun g => g.ticket == d.key.1) = some f := by
    rw [← List.head?_filter, ← named, filter_ticket attends.apart inside]
    rfl
  have held : f.waitingId d.key.2 = id := by
    rw [InFlight.waitingId, found]
  refine ⟨f, inside, named, id, found, ?_⟩
  rw [settle_of_find? only, held]

/-- Settling the delivery `d` takes `d.key` from the places where requests wait. -/
theorem settle {d : Delivery Place} (attends : relay.Attends (d.key :: keys)) :
    (relay.settle d).Attends keys := by
  obtain ⟨f, inside, named, id, found, noted⟩ := attends.inFlight_settle List.mem_cons_self
  obtain ⟨left, distinct⟩ := List.nodup_cons.1 attends.distinct
  refine ⟨?_, distinct, fun key => ?_⟩
  · rw [noted, List.map_map]
    simpa only [Function.comp_def, InFlight.ticket_settleAt] using attends.apart
  · -- The place of `d` is the only one that no longer waits.
    have others : (relay.settle d).WaitsAt key ↔ relay.WaitsAt key ∧ key ≠ d.key := by
      rw [← waitsAt_settleAt relay key d.key (Entry.answer id (.ok (.received d.slice))), WaitsAt,
        noted]
      rfl
    rw [others, ← attends.waits key, List.mem_cons]
    constructor
    · intro member
      exact ⟨.inr member, fun same => left (same ▸ member)⟩
    · rintro ⟨same | member, apart⟩
      · exact absurd same apart
      · exact member

end Attends

/-! ### What readers were told -/

theorem timeline_settleAll (relay : Relay) (deliveries : List (Delivery Place)) :
    (relay.settleAll deliveries).1.timeline = relay.timeline := by
  induction deliveries generalizing relay with
  | nil => rfl
  | cons d deliveries ih => exact (ih _).trans (timeline_settle relay d)

theorem config_settleAll (relay : Relay) (deliveries : List (Delivery Place)) :
    (relay.settleAll deliveries).1.config = relay.config := by
  induction deliveries generalizing relay with
  | nil => rfl
  | cons d deliveries ih => exact (ih _).trans (config_settle relay d)

theorem Attends.settleAll {deliveries : List (Delivery Place)}
    (attends : relay.Attends (deliveries.map (·.key) ++ keys)) :
    (relay.settleAll deliveries).1.Attends keys := by
  induction deliveries generalizing relay with
  | nil => exact attends
  | cons d deliveries ih => exact ih attends.settle.retire

/-- If no submission in flight has a response, none has after `settleAll`. -/
theorem unanswered_settleAll (deliveries : List (Delivery Place))
    (unanswered : ∀ f ∈ relay.inFlight, f.response? = none) :
    ∀ f ∈ (relay.settleAll deliveries).1.inFlight, f.response? = none := by
  induction deliveries generalizing relay with
  | nil => exact unanswered
  | cons d deliveries ih =>
    refine ih fun f inside => ?_
    simpa using (List.mem_filter.1 inside).2

/-- The responses to the submission of `ticket` among `finished`. -/
def responsesTo (ticket : Ticket) (finished : List Finished) : List HttpResponse :=
  (finished.filter fun x => x.ticket == ticket).map (·.response)

theorem responsesTo_append (ticket : Ticket) (finished later : List Finished) :
    responsesTo ticket (finished ++ later) =
      responsesTo ticket finished ++ responsesTo ticket later := by
  simp [responsesTo]

theorem responsesTo_filterMap_finished? (ticket : Ticket) (time : Nat)
    (submissions : List InFlight) :
    responsesTo ticket (submissions.filterMap (finished? time)) =
      (submissions.filter fun f => f.ticket == ticket).filterMap InFlight.response? := by
  induction submissions with
  | nil => rfl
  | cons f submissions ih =>
    cases answered : f.response? with
    | none =>
      rw [List.filterMap_cons_none (by simp [finished?, answered]), ih, List.filter_cons]
      split <;> simp [answered]
    | some response =>
      rw [List.filterMap_cons_some (b := ⟨f.ticket, response, f.began, time⟩)
        (by simp [finished?, answered]), List.filter_cons]
      by_cases same : f.ticket = ticket
      · simpa [responsesTo, same, answered] using ih
      · simpa [responsesTo, same] using ih

/-- The submission of `ticket` and all responses to it so far: it is `working`, with `P`, and there
is none, or it was `answered` with the response of something that has `P`, and is not in flight any
more. -/
inductive Tracks (relay : Relay) (ticket : Ticket) (P : InFlight → Prop) : List HttpResponse → Prop
  | working {f : InFlight} (inside : f ∈ relay.inFlight) (named : f.ticket = ticket)
      (holds : P f) : Tracks relay ticket P []
  | answered {f : InFlight} {response : HttpResponse}
      (gone : ∀ g ∈ relay.inFlight, g.ticket ≠ ticket) (holds : P f)
      (given : f.response? = some response) : Tracks relay ticket P [response]

namespace Tracks

variable {P : InFlight → Prop} {given : List HttpResponse}

/-- `Tracks` depends on `inFlight` only. -/
theorem congr (tracks : relay.Tracks ticket P given) (other : Relay)
    (same : other.inFlight = relay.inFlight) : other.Tracks ticket P given := by
  cases tracks with
  | working inside named holds => exact .working (same ▸ inside) named holds
  | answered gone holds answer => exact .answered (same ▸ gone) holds answer

/-- `P` may be replaced by a `weaker` property `Q`. -/
theorem mono {Q : InFlight → Prop} (tracks : relay.Tracks ticket P given)
    (weaker : ∀ f, P f → Q f) : relay.Tracks ticket Q given := by
  cases tracks with
  | working inside named holds => exact .working inside named (weaker _ holds)
  | answered gone holds answer => exact .answered gone (weaker _ holds) answer

/-- Settling the delivery `d` keeps `P` for the submission of `ticket`. -/
def Keeps (ticket : Ticket) (P : InFlight → Prop) (d : Delivery Place) : Prop :=
  ∀ f id, P f → d.key.1 = ticket → f.entries[d.key.2]? = some (.waiting id) →
    P (f.settle d.key.2 (Entry.answer id (.ok (.received d.slice))))

/-- Forgetting submissions that have a response tells that of `ticket` once. -/
theorem retire (apart : (relay.inFlight.map InFlight.ticket).Nodup)
    (tracks : relay.Tracks ticket P given) (time : Nat) :
    ({ relay with inFlight := relay.inFlight.filter fun f => f.response?.isNone } : Relay).Tracks
      ticket P (given ++ responsesTo ticket (relay.inFlight.filterMap (finished? time))) := by
  rw [responsesTo_filterMap_finished?]
  cases tracks with
  | @working f inside named holds =>
    rw [← named, filter_ticket apart inside]
    -- With its last answer the submission leaves, and no other has its ticket.
    cases answered : f.response? with
    | none =>
      simp only [List.filterMap_cons, answered, List.filterMap_nil, List.append_nil]
      exact .working (List.mem_filter.2 ⟨inside, by rw [answered]; rfl⟩) rfl holds
    | some response =>
      simp only [List.filterMap_cons, answered, List.filterMap_nil, List.nil_append]
      refine .answered (fun g kept same => ?_) holds answered
      obtain ⟨held, unanswered⟩ := List.mem_filter.1 kept
      rw [eq_of_ticket apart held inside same, answered] at unanswered
      exact nomatch unanswered
  | answered gone holds answer =>
    have none : (relay.inFlight.filter fun f => f.ticket == ticket) = [] :=
      List.filter_eq_nil_iff.2 fun g inside => by simpa using gone g inside
    rw [none]
    exact .answered (fun g kept => gone g (List.mem_filter.1 kept).1) holds answer

theorem settle {d : Delivery Place} (attends : relay.Attends (d.key :: keys))
    (keeps : Keeps ticket P d) (tracks : relay.Tracks ticket P given) :
    (relay.settle d).Tracks ticket P given := by
  obtain ⟨g, held, here, id, found, noted⟩ := attends.inFlight_settle List.mem_cons_self
  cases tracks with
  | @working f inside named holds =>
    have changed : f.settleAt d.key (Entry.answer id (.ok (.received d.slice))) ∈
        (relay.settle d).inFlight := by
      rw [noted]
      exact List.mem_map_of_mem inside
    refine .working changed ((f.ticket_settleAt _ _).trans named) ?_
    · unfold InFlight.settleAt
      split
      · next same =>
        -- The submission is the one that the reader waits for.
        obtain rfl := eq_of_ticket attends.apart inside held (same.trans here.symm)
        exact keeps f id holds (same.symm.trans named) found
      · exact holds
  | answered gone holds answer =>
    refine .answered (fun f changed => ?_) holds answer
    rw [noted] at changed
    obtain ⟨f, inside, rfl⟩ := List.mem_map.1 changed
    rw [InFlight.ticket_settleAt]
    exact gone f inside

/-- If all `deliveries` keep `P`, `settleAll` keeps track of `ticket`, with the responses that it
gives. -/
theorem settleAll {deliveries : List (Delivery Place)}
    (attends : relay.Attends (deliveries.map (·.key) ++ keys))
    (keeps : ∀ d ∈ deliveries, Keeps ticket P d) (tracks : relay.Tracks ticket P given) :
    (relay.settleAll deliveries).1.Tracks ticket P
      (given ++ responsesTo ticket (relay.settleAll deliveries).2) := by
  induction deliveries generalizing relay given with
  | nil => simpa [Relay.settleAll, responsesTo] using tracks
  | cons d deliveries ih =>
    have settled := tracks.settle attends (keeps d List.mem_cons_self)
    have retired := settled.retire attends.settle.apart d.time
    have rest := ih attends.settle.retire
      (fun e member => keeps e (List.mem_cons_of_mem d member)) retired
    rw [List.append_assoc, ← responsesTo_append] at rest
    exact rest

end Tracks

end Relay

end StateChannel
