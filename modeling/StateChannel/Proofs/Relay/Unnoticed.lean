import Mathlib.Data.List.TakeWhile
import StateChannel.Proofs.Relay.Hiding
import StateChannel.Proofs.Relay.Parameters

/-!
# A reader goes unnoticed

A request for messages that comes in on its own, and is then answered, dropped or left waiting,
could as well be left out: no log differs, and all other requests are answered the same at the same
times. Only `/health` and `/metrics` show that a channel has been named or that a call has been
counted, and a reader that is dropped while it waits is not even counted.

## Main definitions

* `Relay.held`, `Relay.released`: what is done while a request holds its ticket, and from then on
* `Relay.without`: what is done when the request is left out
* `Relay.answersBesides`: the answers to all other submissions

## Main results

* `Relay.hides_begin`: a reader comes in
* `Relay.Hides.abort_hidden`, `Relay.Hides.reveal`: it is dropped, or has been answered
* `Relay.readers_unnoticed`: the run with the reader and the run without
-/

namespace StateChannel

/-- What `Call.route` makes of the method `receive` is a `.receive`. -/
theorem Call.exists_of_route_receive {params : Option Json} {call : Call}
    (routed : route "receive" params = .ok call) :
    ∃ channel start, call = .receive channel start := by
  have asks := route_eq_ok_iff.1 routed
  generalize named : "receive" = method at asks
  cases asks with
  | send onto what => exact absurd named (by decide)
  | getSeq of => exact absurd named (by decide)
  | receive of past => exact ⟨_, _, rfl⟩

namespace Relay

/-! ### A reader comes in -/

section Coming

variable {relay : Relay} {ticket : Ticket}

/-- No reader of the board has a `ticket` that is not in use, so dropping its readers changes
nothing. -/
theorem Steady.drop_board (steady : relay.Steady) (fresh : ∀ f ∈ relay.inFlight, f.ticket ≠ ticket) :
    relay.timeline.board.drop (fun key => key.1 == ticket) = relay.timeline.board := by
  have others : ∀ w ∈ relay.timeline.readers, (!w.key.1 == ticket) = true := by
    intro w member
    obtain ⟨f, inside, named, _⟩ :=
      (steady.attends.waits w.key).1 (List.mem_map_of_mem (f := fun w : Wait Place => w.key) member)
    simpa [← named] using fresh f inside
  have kept (readers : List (Wait Place)) (all : ∀ w ∈ readers, w ∈ relay.timeline.readers) :
      (readers.map relay.timeline.registry.standing).filter (fun w => !w.key.1 == ticket) =
        readers.map relay.timeline.registry.standing := by
    refine List.filter_eq_self.2 fun v member => ?_
    obtain ⟨w, inside, rfl⟩ := List.mem_map.1 member
    exact others w (all w inside)
  simp only [Timeline.board, Board.drop,
    kept relay.timeline.waits fun w => List.mem_append_right _,
    kept relay.timeline.woken fun w => List.mem_append_left _]

/-- If `timeline` hides its surplus over that of `relay` under a `ticket` that was not in use, then
`relay` with that `timeline` and any `metrics` hides it too. -/
theorem hides_of_fresh (fresh : ∀ f ∈ relay.inFlight, f.ticket ≠ ticket) {timeline : Timeline Place}
    {spare : Option String}
    (hides : timeline.Hides (fun t => t == ticket) spare relay.timeline) (metrics : Metrics) :
    ({ relay with timeline, metrics } : Relay).Hides (fun t => t == ticket) spare true relay where
  config := rfl
  wording := rfl
  timeline := hides
  inFlight := List.filter_eq_self.2 fun f inside => by simpa using fresh f inside
  metrics uncounted := nomatch uncounted
  one first second same same' := (eq_of_beq same).trans (eq_of_beq same').symm
  lone f inside own := absurd (eq_of_beq own) (fresh f inside)
  gone _ f inside := by simpa using fresh f inside

/-- A single `entry` that is `.done` at once is answered in `submit`, and no reader is woken. -/
theorem submit_of_done {timeline : Timeline Place} {metrics : Metrics} {entry : Entry}
    {answer : Option Json} (nobody : timeline.woken = [])
    (started : relay.startEntry (ticket, 0) entry =
      ({ relay with timeline, metrics }, .done answer)) :
    ∃ response, relay.submit ticket false [entry] =
      ({ relay with timeline, metrics }, [⟨ticket, response, timeline.now, timeline.now⟩]) := by
  have begins : relay.startEntries ticket [entry] 0 =
      ({ relay with timeline, metrics }, [.done answer]) := by
    simp only [startEntries, started]
  have goesOn := resume_of_woken_eq_nil { relay with timeline, metrics } nobody ticket 1
  simp only [submit, begins]
  exact ⟨_, congrArg (fun x : Relay × List Finished => (x.1, _ :: x.2)) goesOn⟩

/-- A single `entry` that is `.waiting` is kept in flight by `submit`, and no reader is woken. -/
theorem submit_of_waiting {timeline : Timeline Place} {entry : Entry} {id : Option Json}
    (nobody : timeline.woken = [])
    (started : relay.startEntry (ticket, 0) entry = ({ relay with timeline }, .waiting id)) :
    relay.submit ticket false [entry] =
      ({ relay with
        timeline
        inFlight := relay.inFlight ++ [⟨ticket, timeline.now, false, [.waiting id]⟩] }, []) := by
  have begins : relay.startEntries ticket [entry] 0 =
      ({ relay with timeline }, [.waiting id]) := by
    simp only [startEntries, started]
  simp only [submit, begins]
  exact resume_of_woken_eq_nil { relay with
    timeline
    inFlight := relay.inFlight ++ [⟨ticket, timeline.now, false, [.waiting id]⟩] } nobody ticket 1

/-- After a single `receive` has begun under a fresh `ticket`, the relay hides what it gained from
`relay`. There is a `spare` channel only if the `receive` named one that `relay` did not have. -/
theorem hides_begin (steady : relay.Steady) (placed : relay.timeline.Placed)
    (fresh : ∀ f ∈ relay.inFlight, f.ticket ≠ ticket) {request : HttpRequest}
    {id params : Option Json}
    (receives : relay.submission request = .single (.call id "receive" params)) :
    ∃ spare counted,
      (spare ≠ none → ∃ channel start, Call.route "receive" params = .ok (.receive channel start) ∧
        relay.timeline.registry.find? channel = none) ∧
      (relay.begin ticket request).1.Hides (fun t => t == ticket) spare counted relay ∧
      shown (fun t => t == ticket) (relay.begin ticket request).2 = [] := by
  have same := steady.drop_board fresh
  have begins : relay.begin ticket request =
      relay.submit ticket false [.call id "receive" params] := by
    simp only [Relay.begin, receives]
  have own (response : HttpResponse) (now : Nat) :
      shown (fun t => t == ticket) [⟨ticket, response, now, now⟩] = [] := by
    simp [shown]
  rw [begins]
  cases routed : Call.route "receive" params with
  | error e =>
    -- It is counted as a failure, and nothing comes of it.
    have started : relay.startEntry (ticket, 0) (.call id "receive" params) =
        ({ relay with metrics := countCall relay.metrics id (.error e) 0 },
          .done (Entry.answer id (.error e))) := by
      simp only [startEntry, routed]
    obtain ⟨response, submits⟩ := submit_of_done steady.woken started
    rw [submits]
    have hides : relay.timeline.Hides (fun t => t == ticket) none relay.timeline :=
      ⟨placed, placed, same, .refl _⟩
    exact ⟨none, true, fun more => absurd rfl more, hides_of_fresh fresh hides _, own _ _⟩
  | ok call =>
    obtain ⟨channel, start, rfl⟩ := Call.exists_of_route_receive routed
    let timeout := relay.config.receiveTimeout.wait
    -- The reader is the only one that the other relay has not, and its channel may be new.
    have hides : (relay.timeline.receive (ticket, 0) channel start.toNat timeout).1.Hides
        (fun t => t == ticket)
        (if (relay.timeline.registry.find? channel).isSome then none else some channel)
        relay.timeline := by
      obtain ⟨placed', board, _⟩ := placed.receive (ticket, 0) channel start.toNat timeout
      refine ⟨placed', placed, ?_, ?_⟩
      · rw [board, Board.drop_receive_self _ (fun key : Place => key.1 == ticket) (ticket, 0)
          (beq_self_eq_true ticket), same]
      · rw [Timeline.registry_receive]
        exact Registry.beside_enter _ channel
    have first (more : (if (relay.timeline.registry.find? channel).isSome then none
        else some channel) ≠ none) : ∃ name position,
          (.ok (.receive channel start) : Except ApiError Call) = .ok (.receive name position) ∧
            relay.timeline.registry.find? name = none := by
      refine ⟨channel, start, rfl, ?_⟩
      by_contra present
      rw [if_pos (Option.isSome_iff_ne_none.2 present)] at more
      exact more rfl
    have nobody : (relay.timeline.receive (ticket, 0) channel start.toNat timeout).1.woken = [] := by
      rcases relay.timeline.receive_cases (ticket, 0) channel start.toNat timeout with
        ⟨d, told⟩ | ⟨w, -, waits⟩
      · rw [told]
        exact steady.woken
      · rw [waits]
        exact steady.woken
    -- Told at once, it is counted at once; otherwise it is in flight, and nothing is counted yet.
    cases told : (relay.timeline.receive (ticket, 0) channel start.toNat timeout).2 with
    | some d =>
      have started : relay.startEntry (ticket, 0) (.call id "receive" params) =
          ({ relay with
              timeline := (relay.timeline.receive (ticket, 0) channel start.toNat timeout).1
              metrics := countCall relay.metrics id (.ok (.received d.slice)) 0 },
            .done (Entry.answer id (.ok (.received d.slice)))) := by
        simp only [startEntry, routed, invoke, told, timeout, Option.map_some]
      obtain ⟨response, submits⟩ := submit_of_done nobody started
      rw [submits]
      exact ⟨_, true, first, hides_of_fresh fresh hides _, own _ _⟩
    | none =>
      have started : relay.startEntry (ticket, 0) (.call id "receive" params) =
          ({ relay with
              timeline := (relay.timeline.receive (ticket, 0) channel start.toNat timeout).1 },
            .waiting id) := by
        simp only [startEntry, routed, invoke, told, timeout, Option.map_none]
      rw [submit_of_waiting nobody started]
      have before := hides_of_fresh fresh hides relay.metrics
      refine ⟨_, false, first,
        ⟨rfl, rfl, hides, ?_, fun _ => rfl, before.one, ?_, Bool.noConfusion⟩, rfl⟩
      · simp [List.filter_append, before.inFlight]
      · intro f inside named
        rcases List.mem_append.1 inside with old | new
        · exact before.lone f old named
        · rw [List.mem_singleton.1 new]
          rfl

end Coming

/-! ### It goes -/

section Going

variable {ticket : Ticket} {spare : Option String} {counted : Bool} {relay other : Relay}

/-- Aborting the hidden `ticket` leaves nothing to hide but the `spare` channel and a count. -/
theorem Hides.abort_hidden (hides : relay.Hides (fun t => t == ticket) spare counted other) :
    (relay.abort ticket).Hides (fun _ => false) spare counted other where
  config := hides.config
  wording := hides.wording
  timeline := by
    obtain ⟨placed, board⟩ := hides.timeline.placed.drop fun key => key.1 == ticket
    refine ⟨placed, hides.timeline.placed', ?_, hides.timeline.channels⟩
    show (relay.timeline.drop fun key => key.1 == ticket).board.drop (fun _ => false) = _
    rw [board, hides.timeline.board]
    simp [Board.drop]
  inFlight := by
    rw [← hides.inFlight]
    simp [Relay.abort, bne]
  metrics := hides.metrics
  one _ _ impossible := nomatch impossible
  lone _ _ impossible := nomatch impossible
  gone _ _ _ := rfl

/-- When nothing is in flight under the hidden `ticket` any longer, there is nothing to hide but
the `spare` channel and a count. -/
theorem Hides.reveal (hides : relay.Hides (fun t => t == ticket) spare counted other)
    (steady : relay.Steady) (answered : ∀ f ∈ relay.inFlight, f.ticket ≠ ticket) :
    relay.Hides (fun _ => false) spare counted other where
  config := hides.config
  wording := hides.wording
  timeline := by
    refine ⟨hides.timeline.placed, hides.timeline.placed', ?_, hides.timeline.channels⟩
    rw [← hides.timeline.board, steady.drop_board answered]
    simp [Board.drop]
  inFlight := by
    rw [← hides.inFlight]
    refine List.filter_congr fun f inside => ?_
    simpa using answered f inside
  metrics := hides.metrics
  one _ _ impossible := nomatch impossible
  lone _ _ impossible := nomatch impossible
  gone _ _ _ := rfl

theorem shown_nothing (finished : List Finished) : shown (fun _ => false) finished = finished := by
  simp [shown]

theorem hides_start (config : Config) (wording : Wording) :
    (start config wording).Hides (fun _ => false) none false (start config wording) where
  config := rfl
  wording := rfl
  timeline := ⟨Timeline.placed_empty, Timeline.placed_empty, rfl, .refl _⟩
  inFlight := rfl
  metrics _ := rfl
  one _ _ impossible := nomatch impossible
  lone _ _ impossible := nomatch impossible
  gone _ _ _ := rfl

/-- Where no ticket is hidden, the answers to `operations` are `Alike` one by one. -/
theorem Hides.operateAll_of_nothing (hides : relay.Hides (fun _ => false) spare counted other)
    (steady : relay.Steady) {operations : List Operation} (admits : relay.Admits operations) :
    ∃ left, (relay.operateAll operations).1.Hides (fun _ => false) left counted
        (other.operateAll operations).1 ∧
      other.Admits operations ∧
      List.Forall₂ (Alike operations (spare ≠ none) (counted = true))
        (relay.operateAll operations).2 (other.operateAll operations).2 := by
  obtain ⟨left, later, _, counts, all, admits', answers⟩ :=
    hides.operateAll steady admits fun _ _ _ _ => rfl
  obtain rfl : later = counted := counts.resolve_right fun ⟨_, _, impossible⟩ => nomatch impossible
  rw [shown_nothing] at answers
  exact ⟨left, all, admits', answers⟩

/-- Every reader of a relay that has been reached waits at the place of a channel
(`Timeline.Placed`). -/
theorem placed_operateAll {config : Config} {wording : Wording} {operations : List Operation}
    (admits : (start config wording).Admits operations) :
    ((start config wording).operateAll operations).1.timeline.Placed := by
  obtain ⟨_, _, _, _, hides, _⟩ := 
    (hides_start config wording).operateAll (steady_start config wording) admits
    fun _ _ _ _ => rfl
  exact hides.timeline.placed

end Going

/-! ### With the reader and without -/

/-- The operations up to the first that uses `ticket`. -/
def held (ticket : Ticket) (operations : List Operation) : List Operation :=
  operations.takeWhile fun operation => operation.ticket? ≠ some ticket

/-- The operations from the first on that uses `ticket`. -/
def released (ticket : Ticket) (operations : List Operation) : List Operation :=
  operations.dropWhile fun operation => operation.ticket? ≠ some ticket

/-- The operations when the request under `ticket` is left out: the `.abort` that drops it is left
out too. -/
def without (ticket : Ticket) (operations : List Operation) : List Operation :=
  held ticket operations ++
    match released ticket operations with
    | .abort _ :: later => later
    | later => later

/-- The answers to all submissions but the one that `request` makes under `ticket`. -/
def answersBesides (relay : Relay) (ticket : Ticket) (request : HttpRequest)
    (operations : List Operation) : List Finished :=
  let whole := relay.operateAll (.begin ticket request :: held ticket operations)
  shown (fun t => t == ticket) whole.2 ++ (whole.1.operateAll (released ticket operations)).2

/-- The submission that `request` makes under `ticket` is still in flight when `ticket` is used
again, or in the end. -/
def KeepsWaiting (relay : Relay) (ticket : Ticket) (request : HttpRequest)
    (operations : List Operation) : Prop :=
  ∃ f ∈ (relay.operateAll (.begin ticket request :: held ticket operations)).1.inFlight,
    f.ticket = ticket

theorem held_append_released (ticket : Ticket) (operations : List Operation) :
    held ticket operations ++ released ticket operations = operations :=
  List.takeWhile_append_dropWhile

/-- An operation in `held ticket operations` does not use `ticket`. -/
theorem ticket?_of_mem_held {ticket : Ticket} {operations : List Operation} {operation : Operation}
    (member : operation ∈ held ticket operations) : operation.ticket? ≠ some ticket := by
  simpa using List.mem_takeWhile_imp member

/-- What is `released` is empty, or starts with `.abort ticket` or with another request under
`ticket`. -/
theorem released_cases (ticket : Ticket) (operations : List Operation) :
    released ticket operations = [] ∨
      (∃ later, released ticket operations = .abort ticket :: later) ∨
      ∃ request later, released ticket operations = .begin ticket request :: later := by
  cases rest : released ticket operations with
  | nil => exact .inl rfl
  | cons operation later =>
    have first := List.head?_dropWhile_not
      (fun operation : Operation => decide (operation.ticket? ≠ some ticket)) operations
    have split : operations.dropWhile (fun operation : Operation =>
      decide (operation.ticket? ≠ some ticket)) = operation :: later := rest
    have own : operation.ticket? = some ticket := by
      rw [split] at first
      simpa using first
    -- An operation without a ticket is no first operation of `ticket`.
    cases operation with
    | begin other request =>
      obtain rfl := Option.some.inj own
      exact .inr (.inr ⟨request, later, rfl⟩)
    | abort other =>
      obtain rfl := Option.some.inj own
      exact .inr (.inl ⟨later, rfl⟩)
    | pass millis => exact nomatch own

/-- If `relay` hides `ticket` from `other`, the answers of both are `Alike` one by one over
`operations` and `without ticket operations`, before `ticket` is released and after. -/
theorem Hides.unnoticed {ticket : Ticket} {spare : Option String} {counted : Bool}
    {relay other : Relay} (hides : relay.Hides (fun t => t == ticket) spare counted other)
    (steady : relay.Steady) {operations : List Operation} (admits : relay.Admits operations) :
    ∃ hidden left later,
      (relay.operateAll operations).1.Hides hidden left later
        (other.operateAll (without ticket operations)).1 ∧
      ((∃ f ∈ (relay.operateAll (held ticket operations)).1.inFlight, f.ticket = ticket) →
        later = false) ∧
      other.Admits (without ticket operations) ∧
      List.Forall₂ (Alike (without ticket operations) (spare ≠ none) (later = true))
        (shown (fun t => t == ticket) (relay.operateAll (held ticket operations)).2 ++
          ((relay.operateAll (held ticket operations)).1.operateAll (released ticket operations)).2)
        (other.operateAll (without ticket operations)).2 := by
  have parts := held_append_released ticket operations
  have both := admits
  rw [← parts, admits_append] at both
  obtain ⟨holding, releasing⟩ := both
  obtain ⟨left, later, fewer, _, after, admits', answers⟩ := hides.operateAll steady holding
    fun operation member t own => by
      have apart : t ≠ ticket := fun same => ticket?_of_mem_held member (same ▸ own)
      simpa using apart
  have steady' := steady.operateAll holding
  have waiting : (∃ f ∈ (relay.operateAll (held ticket operations)).1.inFlight, f.ticket = ticket) →
      later = false := by
    rintro ⟨f, inside, named⟩
    by_contra counts
    have gone := after.gone (by simpa using counts) f inside
    simp [named] at gone
  have whole : (relay.operateAll operations).1 =
      ((relay.operateAll (held ticket operations)).1.operateAll (released ticket operations)).1 := by
    conv_lhs => rw [← parts, operateAll_append]
  -- What was answered so far, and what comes then, is put together.
  have join {rest : List Operation} {mine theirs : List Finished}
      (omitted : without ticket operations = held ticket operations ++ rest)
      (further : List.Forall₂ (Alike rest (left ≠ none) (later = true)) mine theirs) :
      List.Forall₂ (Alike (without ticket operations) (spare ≠ none) (later = true))
        (shown (fun t => t == ticket) (relay.operateAll (held ticket operations)).2 ++ mine)
        ((other.operateAll (held ticket operations)).2 ++ theirs) := by
    rw [omitted]
    refine List.rel_append (answers.imp fun x y alike => ?_) (further.imp fun x y alike => ?_)
    · exact alike.mono (fun _ => List.mem_append_left rest) id id
    · exact alike.mono (fun _ => List.mem_append_right _) (fun more none => more (fewer none)) id
  -- Its ticket is released never, when it is dropped, or when the ticket is used again, which shows
  -- that it has been answered.
  rcases released_cases ticket operations with none | ⟨rest, drops⟩ | ⟨request, rest, again⟩
  · have omitted : without ticket operations = held ticket operations ++ [] := by
      rw [without, none]
    rw [omitted, List.append_nil]
    refine ⟨fun t => t == ticket, left, later, ?_, waiting, admits', ?_⟩
    · rw [whole, none]
      exact after
    · have all := join omitted .nil
      simp only [omitted, List.append_nil] at all
      rw [none]
      exact (List.append_nil _).symm ▸ all
  · have omitted : without ticket operations = held ticket operations ++ rest := by
      rw [without, drops]
    rw [drops] at releasing
    obtain ⟨last, all, admits'', further⟩ :=
      after.abort_hidden.operateAll_of_nothing (steady'.abort ticket) releasing.2
    refine ⟨fun _ => false, last, later, ?_, waiting, ?_, ?_⟩
    · rw [whole, drops, omitted, operateAll_append]
      exact all
    · rw [omitted, admits_append]
      exact ⟨admits', admits''⟩
    · have all := join omitted further
      rw [drops]
      rw [omitted] at all ⊢
      rw [operateAll_append]
      exact all
  · have omitted : without ticket operations =
        held ticket operations ++ .begin ticket request :: rest := by
      rw [without, again]
    rw [again] at releasing
    obtain ⟨last, all, admits'', further⟩ :=
      (after.reveal steady' (releasing.1 ticket request rfl)).operateAll_of_nothing steady' releasing
    refine ⟨fun _ => false, last, later, ?_, waiting, ?_, ?_⟩
    · rw [whole, again, omitted, operateAll_append]
      exact all
    · rw [omitted, admits_append]
      exact ⟨admits', admits''⟩
    · have all := join omitted further
      rw [again]
      rw [omitted] at all ⊢
      rw [operateAll_append]
      exact all

/-- **A reader goes unnoticed.** Let `request` be a single `receive` that comes in under `ticket`
after `before`, and compare the run with the one in which it is left out. That run is admitted, its
logs are the same under every `name`, and its answers are `Alike` one by one with those of
`answersBesides`: the same answers at the same times, except that `/health` may tell of one channel
more, if the `receive` was the first to name its channel, and `/metrics` may tell other counters,
unless `KeepsWaiting`. If the reader `KeepsWaiting`, the metrics are the same in the end. -/
theorem readers_unnoticed (config : Config) (wording : Wording) {before after : List Operation}
    {ticket : Ticket} {request : HttpRequest} {id params : Option Json}
    (admitted : (start config wording).Admits (before ++ .begin ticket request :: after))
    {reached : Relay} (state : reached = ((start config wording).operateAll before).1)
    (receives : reached.submission request = .single (.call id "receive" params)) :
    let full := (start config wording).operateAll (before ++ .begin ticket request :: after)
    let rest := (start config wording).operateAll (before ++ without ticket after)
    (start config wording).Admits (before ++ without ticket after) ∧
    (∀ name, full.1.timeline.registry.logOf name = rest.1.timeline.registry.logOf name) ∧
    List.Forall₂
      (Alike (without ticket after)
        (∃ channel start, Call.route "receive" params = .ok (.receive channel start) ∧
          reached.timeline.registry.find? channel = none)
        (¬ reached.KeepsWaiting ticket request after))
      (((start config wording).operateAll before).2 ++ reached.answersBesides ticket request after)
      rest.2 ∧
    (reached.KeepsWaiting ticket request after → full.1.metrics = rest.1.metrics) := by
  intro full rest
  obtain ⟨admits, fresh, continues⟩ := admits_append.1 admitted
  rw [← state] at fresh continues
  have steady : reached.Steady := state ▸ (steady_start config wording).operateAll admits
  have placed : reached.timeline.Placed := state ▸ placed_operateAll admits
  obtain ⟨spare, counted, first, hides, silent⟩ :=
    hides_begin steady placed (fresh ticket request rfl) receives
  have steady' : (reached.begin ticket request).1.Steady := steady.operate fresh
  obtain ⟨hidden, left, later, all, waiting, admits', answers⟩ := hides.unnoticed steady' continues
  have fullEq : full.1 = ((reached.begin ticket request).1.operateAll after).1 := by
    simp only [full, operateAll_append, ← state]
    rfl
  have restEq : rest = ((reached.operateAll (without ticket after)).1,
      ((start config wording).operateAll before).2 ++
        (reached.operateAll (without ticket after)).2) := by
    simp only [rest, operateAll_append, ← state]
  rw [fullEq, restEq]
  refine ⟨admits_append.2 ⟨admits, state ▸ admits'⟩, all.timeline.logOf_eq, ?_,
    fun waits => all.metrics (waiting waits)⟩
  -- What was answered before is the same, and its own answer at the beginning is left out.
  refine List.rel_append (forall₂_alike_same _ _ _ _) ?_
  have besides : reached.answersBesides ticket request after =
      shown (fun t => t == ticket)
          ((reached.begin ticket request).1.operateAll (held ticket after)).2 ++
        (((reached.begin ticket request).1.operateAll (held ticket after)).1.operateAll
          (released ticket after)).2 := by
    have own : shown (fun t => t == ticket) ((reached.begin ticket request).2 ++
        ((reached.begin ticket request).1.operateAll (held ticket after)).2) =
        shown (fun t => t == ticket)
          ((reached.begin ticket request).1.operateAll (held ticket after)).2 := by
      rw [shown, List.filter_append]
      exact congrArg (· ++ _) silent
    exact congrArg (· ++ _) own
  rw [besides]
  exact answers.imp fun x y alike => alike.mono (fun _ member => member) first fun counts waits =>
    absurd ((waiting waits).symm.trans counts) Bool.false_ne_true

/-- A `receive` on channel `a`. -/
def asking : HttpRequest :=
  ⟨"POST", "/", [],
    "\x7b\"id\":\"r\",\"method\":\"receive\",\"params\":[\"a\",0]\x7d".toUTF8⟩

/-- The case of `readers_unnoticed` for `asking` when it is aborted while it waits, after a request
for `/health`: it is not counted. -/
theorem readers_unnoticed_dropped :
    ((start .standard .silent).operateAll [.begin (.background "r") asking,
        .begin .foreground ⟨"GET", "/health", [], "".toUTF8⟩, .abort (.background "r")]).1.metrics =
      ((start .standard .silent).operateAll
        [.begin .foreground ⟨"GET", "/health", [], "".toUTF8⟩]).1.metrics := by
  have waiting : ((start .standard .silent).begin (.background "r") asking).1.inFlight =
      [⟨.background "r", 0, false, [.waiting (some (.string "r"))]⟩] := rfl
  have admitted : (start .standard .silent).Admits ([] ++ .begin (.background "r") asking ::
      [.begin .foreground ⟨"GET", "/health", [], "".toUTF8⟩, .abort (.background "r")]) := by
    refine ⟨(fun _ _ _ _ inside => nomatch inside), (fun ticket request same f inside => ?_),
      (fun _ _ other => nomatch other), trivial⟩
    obtain ⟨rfl, -⟩ := Operation.begin.inj same
    have inside : f ∈ ((start .standard .silent).begin (.background "r") asking).1.inFlight := inside
    rw [waiting, List.mem_singleton] at inside
    rw [inside]
    exact Ticket.noConfusion
  have receives : (start .standard .silent).submission asking =
      .single (.call (some (.string "r")) "receive"
        (some (.array [.string "a", Json.ofCount 0]))) := rfl
  exact (readers_unnoticed .standard .silent admitted rfl receives).2.2.2
    ⟨⟨.background "r", 0, false, [.waiting (some (.string "r"))]⟩, List.mem_singleton_self _, rfl⟩

end Relay

end StateChannel
