import StateChannel.Proofs.Relay.Bodies
import StateChannel.Proofs.Relay.Schedule

/-!
# Requests that start

A relay starts the requests of a body in order. Each of them takes the steps of its call until it
is answered or has to wait, and has then come as far as its part.

## Main results

* `Timeline.Shadows.invoke`: a call that starts takes steps of its own
* `Relay.exists_startEntries`: so do the calls of a body
-/

namespace StateChannel

namespace Part

/-- The calls made in `number body next entries` have indices from `next` on. -/
theorem le_of_mem_number {body next : Nat} {entries : List Entry} {part : Part}
    (member : part ∈ number body next entries) {call : Call} {index : Nat}
    (made : part.made = some (call, index)) : next ≤ index := by
  have numbered : (call, index) ∈ (number body next entries).filterMap Part.made :=
    List.mem_filterMap.2 ⟨part, member, made⟩
  rw [filterMap_made_number] at numbered
  exact (List.mem_zipIdx numbered).1

/-- Moves about other calls leave the progress of `part` as it is. -/
theorem progress_run_of_others {part : Part} {s : Interleaving} {moves : List Move}
    (others : ∀ call number, part.made = some (call, number) →
      ∀ move ∈ moves, ∃ other, other ≠ number ∧ move.index? = some other) :
    part.progress (s.run moves) = part.progress s := by
  apply progress_congr
  intro call number made
  apply Interleaving.outcome?_congr
  exact Interleaving.getElem?_run_of_others (others call number made)

/-- `number body next` makes a `part` of `entry`, and the calls of the others have indices from
some `following` on. -/
theorem exists_number_cons (body next : Nat) (entry : Entry) (entries : List Entry) :
    ∃ part following, number body next (entry :: entries) = part :: number body following entries ∧
      part.entry = entry ∧ part.made.map Prod.fst = entry.call? ∧ next ≤ following ∧
      ∀ call index, part.made = some (call, index) → index < following := by
  cases asked : entry.call? with
  | none =>
    refine ⟨⟨body, entry, none⟩, next, by simp only [number, asked], rfl, rfl, Nat.le_refl _, ?_⟩
    intro call index made
    cases made
  | some c =>
    refine ⟨⟨body, entry, some (c, next)⟩, next + 1, by simp only [number, asked], rfl, rfl,
      Nat.le_succ _, ?_⟩
    intro call index made
    cases made
    exact Nat.lt_succ_self _

theorem map_entry_number (body next : Nat) (entries : List Entry) :
    (number body next entries).map entry = entries := by
  induction entries generalizing next with
  | nil => rfl
  | cons first entries ih =>
    obtain ⟨part, following, parts, rfl, -⟩ := exists_number_cons body next first entries
    rw [parts, List.map_cons, ih]

/-- An entry at `i` that asks for `call` has it made, under some `index`. -/
theorem exists_made_number {body next : Nat} {entries : List Entry} {i : Nat} {call : Call}
    (asked : entries[i]?.bind Entry.call? = some call) :
    ∃ part index, (number body next entries)[i]? = some part ∧ part.made = some (call, index) := by
  induction entries generalizing next i with
  | nil => exact nomatch asked
  | cons entry entries ih =>
    obtain ⟨part, following, parts, rfl, made, -, -⟩ := exists_number_cons body next entry entries
    rw [parts]
    cases i with
    | zero =>
      rw [List.getElem?_cons_zero, Option.bind_some, ← made] at asked
      obtain ⟨⟨_, index⟩, numbered, rfl⟩ := Option.map_eq_some_iff.1 asked
      exact ⟨part, index, rfl, numbered⟩
    | succ i => exact ih asked

end Part

/-- The calls of the body that `.submit request` brings in are `.naming`. -/
theorem Traffic.getElem?_calls_submit {t : Traffic} {request : HttpRequest} {part : Part}
    (member : part ∈ Part.number t.bodies t.interleaving.calls.length (entries t.config request))
    {call : Call} {index : Nat} (made : part.made = some (call, index)) :
    (t.step (.submit request)).interleaving.calls[index]? = some ⟨call, .naming⟩ := by
  have numbered : (call, index) ∈ (Part.number t.bodies t.interleaving.calls.length
      (entries t.config request)).filterMap Part.made := List.mem_filterMap.2 ⟨part, member, made⟩
  rw [Part.filterMap_made_number, List.mem_zipIdx_iff_le_and_getElem?_sub] at numbered
  rw [interleaving_step, moves, Interleaving.run_begin]
  refine (List.getElem?_append_right numbered.1).trans ?_
  rw [List.getElem?_map, numbered.2, Option.map_some]

/-! ### One call -/

/-- A `.receive` is told something at once, or it waits. -/
theorem Timeline.receive_cases {κ : Type} (t : Timeline κ) (key : κ) (channel : String)
    (start timeout : Nat) :
    (∃ d, t.receive key channel start timeout =
      ({ t with registry := (t.registry.enter channel).1 }, some d)) ∨
    ∃ w : Wait κ, w.key = key ∧ t.receive key channel start timeout =
      ({ t with registry := (t.registry.enter channel).1, waits := t.waits ++ [w] }, none) := by
  unfold receive
  dsimp only
  split
  · exact .inl ⟨_, rfl⟩
  · split
    · exact .inl ⟨_, rfl⟩
    · exact .inr ⟨_, rfl, rfl⟩

theorem Timeline.registry_receive {κ : Type} (t : Timeline κ) (key : κ) (channel : String)
    (start timeout : Nat) :
    (t.receive key channel start timeout).1.registry = (t.registry.enter channel).1 := by
  rcases t.receive_cases key channel start timeout with ⟨d, told⟩ | ⟨w, -, waits⟩
  · rw [told]
  · rw [waits]

namespace Relay

variable {t : Timeline Place} {timeout : Duration} {key : Place} {call : Call}

theorem exists_reader_of_invoke (waits : (invoke t timeout key call).2 = none) :
    ∃ w ∈ (invoke t timeout key call).1.readers, w.key = key := by
  cases call with
  | send channel message => exact nomatch waits
  | getSeq channel => exact nomatch waits
  | receive channel start =>
    rcases t.receive_cases key channel start.toNat timeout.wait with ⟨d, told⟩ | ⟨w, own, waited⟩
    · simp [invoke, told] at waits
    · simp only [invoke, waited]
      have last : w ∈ t.waits ++ [w] := List.mem_append_right _ (List.mem_singleton_self w)
      exact ⟨w, List.mem_append_right _ last, own⟩

/-- A reader after `invoke` was there before, or its key is `key`. -/
theorem mem_readers_invoke {w : Wait Place}
    (member : w ∈ (invoke t timeout key call).1.readers) : w ∈ t.readers ∨ w.key = key := by
  -- A send moves readers from waiting to woken, and only a receive brings one.
  cases call with
  | send channel message =>
    left
    rcases List.mem_append.1 member with woken | waiting
    · rcases Timeline.mem_woken_append.1 woken with old | ⟨old, _⟩
      · exact List.mem_append_left _ old
      · exact List.mem_append_right _ old
    · exact List.mem_append_right _ (List.mem_filter.1 waiting).1
  | getSeq channel => exact .inl member
  | receive channel start =>
    rcases t.receive_cases key channel start.toNat timeout.wait with ⟨d, told⟩ | ⟨v, own, waited⟩
    · simp only [invoke, told] at member
      exact .inl member
    · simp only [invoke, waited] at member
      rcases List.mem_append.1 member with woken | waiting
      · exact .inl (List.mem_append_left _ woken)
      · rcases List.mem_append.1 waiting with old | new
        · exact .inl (List.mem_append_right _ old)
        · exact .inr (List.mem_singleton.1 new ▸ own)

end Relay

/-- A call that is `.naming` has `moves` of its own that keep `Shadows` with `invoke`, and lead to
the outcome that `invoke` gives. -/
theorem Timeline.Shadows.invoke {t : Timeline Place} {s : Interleaving} {index : Place → Nat}
    (shadows : t.Shadows s index) (timeout : Duration) {key : Place} {call : Call}
    (found : s.calls[index key]? = some ⟨call, .naming⟩) :
    ∃ moves, (∀ move ∈ moves, move.IsOf (index key)) ∧
      (Relay.invoke t timeout key call).1.Shadows (s.run moves) index ∧
      (s.run moves).outcome? (index key) = (Relay.invoke t timeout key call).2 := by
  cases call with
  | send channel message =>
    obtain ⟨shadowed, sent⟩ := shadows.append found
    exact ⟨_, fun _ => Move.isOf_of_mem_alone, shadowed, sent⟩
  | getSeq channel =>
    obtain ⟨shadowed, told⟩ := shadows.seq found
    exact ⟨_, fun _ => Move.isOf_of_mem_alone, shadowed, told⟩
  | receive channel start =>
    obtain ⟨moves, own, shadowed, told⟩ := shadows.receive found timeout.wait
    refine ⟨moves, own, shadowed, ?_⟩
    cases given : (t.receive key channel start.toNat timeout.wait).2 with
    | some d => simpa [Relay.invoke, given] using told d given
    | none =>
      -- The call is a reader now, and those wait.
      have waits : (Relay.invoke t timeout key (.receive channel start)).2 = none := by
        simp [Relay.invoke, given]
      obtain ⟨w, member, rfl⟩ := Relay.exists_reader_of_invoke waits
      obtain ⟨other, waiting⟩ := shadowed.waiting w member
      rw [waits, Interleaving.outcome?, waiting]

/-! ### The calls of a body -/

namespace Relay

variable {relay : Relay} {s : Interleaving} {index : Place → Nat}

/-- Starting the entry of `part` has moves of its call that keep `Shadows`, and comes as far as
`part` by them. -/
theorem exists_startEntry (shadows : relay.timeline.Shadows s index) (key : Place) {part : Part}
    (asked : part.made.map Prod.fst = part.entry.call?)
    (naming : ∀ call number, part.made = some (call, number) →
      index key = number ∧ s.calls[number]? = some ⟨call, .naming⟩) :
    ∃ moves, (∀ move ∈ moves, ∃ call number, part.made = some (call, number) ∧
        move.IsOf number) ∧
      (relay.startEntry key part.entry).1.timeline.Shadows (s.run moves) index ∧
      (relay.startEntry key part.entry).2 = part.progress (s.run moves) := by
  cases entry : part.entry with
  | refused answer =>
    refine ⟨[], (fun move member => nomatch member), shadows, ?_⟩
    exact (Part.progress_of_answer? (Part.answer?_of_refused entry _)).symm
  | call id method params =>
    cases routed : Call.route method params with
    | error e =>
      refine ⟨[], (fun move member => nomatch member), ?_, ?_⟩
      · simp only [startEntry, routed]
        exact shadows
      · simp only [startEntry, routed]
        exact (Part.progress_of_answer? (Part.answer?_of_error entry routed _)).symm
    | ok call =>
      -- A call that the router accepts has been numbered, and it is at its very first stage.
      rw [entry, Entry.call?, routed] at asked
      obtain ⟨⟨_, number⟩, made, rfl⟩ := Option.map_eq_some_iff.1 asked
      obtain ⟨rfl, found⟩ := naming _ _ made
      obtain ⟨moves, own, shadowed, told⟩ := shadows.invoke relay.config.receiveTimeout found
      refine ⟨moves, fun move member => ⟨_, _, made, own move member⟩, ?_, ?_⟩
      · simp only [startEntry, routed]
        split <;> exact shadowed
      · have answer := Traffic.answer?_of_made entry routed made (s.run moves)
        rw [told] at answer
        simp only [startEntry, routed]
        split
        · next outcome given =>
          rw [given] at answer
          exact (Part.progress_of_answer? answer).symm
        · next waits =>
          rw [waits] at answer
          rw [Part.progress, answer, entry]
          rfl

/-- Starting `entries` has moves of their calls that keep `Shadows`, and each comes as far as its
part by them. -/
theorem exists_startEntries (ticket : Ticket) {entries : List Entry} {body next first : Nat}
    (shadows : relay.timeline.Shadows s index)
    (naming : ∀ (i : Nat) (part : Part) (call : Call) (number : Nat),
      (Part.number body next entries)[i]? = some part → part.made = some (call, number) →
        index (ticket, first + i) = number ∧ s.calls[number]? = some ⟨call, .naming⟩) :
    ∃ moves, (∀ move ∈ moves, ∃ number, next ≤ number ∧ move.IsOf number) ∧
      (relay.startEntries ticket entries first).1.timeline.Shadows (s.run moves) index ∧
      (relay.startEntries ticket entries first).2 =
        (Part.number body next entries).map fun part => part.progress (s.run moves) := by
  induction entries generalizing relay s next first with
  | nil => exact ⟨[], (fun move member => nomatch member), shadows, rfl⟩
  | cons entry entries ih =>
    obtain ⟨part, following, parts, rfl, asked, later, before⟩ :=
      Part.exists_number_cons body next entry entries
    have above : part ∈ Part.number body next (part.entry :: entries) :=
      parts ▸ List.mem_cons_self
    rw [parts] at naming ⊢
    obtain ⟨moves, own, started, progress⟩ := exists_startEntry shadows (ticket, first) asked
      fun call number made => naming 0 part call number rfl made
    -- The calls of the other requests are numbered on, so they have not moved.
    have named : ∀ (i : Nat) (q : Part) (call : Call) (number : Nat),
        (Part.number body following entries)[i]? = some q → q.made = some (call, number) →
          index (ticket, first + 1 + i) = number ∧
            (s.run moves).calls[number]? = some ⟨call, .naming⟩ := by
      intro i q call number present made
      obtain ⟨place, found⟩ := naming (i + 1) q call number present made
      have past := Part.le_of_mem_number (List.mem_of_getElem? present) made
      refine ⟨by rwa [Nat.add_right_comm], ?_⟩
      rw [Interleaving.getElem?_run_of_others]
      · exact found
      · intro move moved
        obtain ⟨call, other, mine, of⟩ := own move moved
        exact ⟨other, Nat.ne_of_lt (Nat.lt_of_lt_of_le (before call other mine) past),
          Move.index?_of_isOf of⟩
    obtain ⟨rest, others, shadowed, progresses⟩ := ih started named
    -- Nor do they change how far the first request has come.
    have kept : part.progress ((s.run moves).run rest) = part.progress (s.run moves) := by
      apply Part.progress_run_of_others
      intro call number made move moved
      obtain ⟨other, past, of⟩ := others move moved
      exact ⟨other, Nat.ne_of_gt (Nat.lt_of_lt_of_le (before call number made) past),
        Move.index?_of_isOf of⟩
    refine ⟨moves ++ rest, ?_, ?_, ?_⟩
    · intro move member
      rcases List.mem_append.1 member with now | after
      · obtain ⟨call, number, made, of⟩ := own move now
        exact ⟨number, Part.le_of_mem_number above made, of⟩
      · obtain ⟨number, past, of⟩ := others move after
        exact ⟨number, Nat.le_trans later past, of⟩
    · rw [Interleaving.run_append]
      exact shadowed
    · rw [Interleaving.run_append, List.map_cons, kept, ← progress, ← progresses]
      rfl

/-- Starting an entry changes the timeline and the metrics alone. -/
theorem exists_startEntry_eq (relay : Relay) (key : Place) (entry : Entry) :
    ∃ timeline metrics, (relay.startEntry key entry).1 = { relay with timeline, metrics } := by
  unfold startEntry
  split
  · exact ⟨_, _, rfl⟩
  · split
    · exact ⟨_, _, rfl⟩
    · dsimp only
      split <;> exact ⟨_, _, rfl⟩

theorem exists_startEntries_eq (relay : Relay) (ticket : Ticket) (entries : List Entry)
    (first : Nat) : ∃ timeline metrics,
      (relay.startEntries ticket entries first).1 = { relay with timeline, metrics } := by
  induction entries generalizing relay first with
  | nil => exact ⟨_, _, rfl⟩
  | cons entry entries ih =>
    obtain ⟨timeline, metrics, started⟩ := relay.exists_startEntry_eq (ticket, first) entry
    obtain ⟨later, counts, rest⟩ := ih (relay.startEntry (ticket, first) entry).1 (first + 1)
    refine ⟨later, counts, rest.trans ?_⟩
    rw [started]

/-- A reader after `startEntry` was there before, or it is that of the call of `entry`. -/
theorem mem_readers_startEntry {key : Place} {entry : Entry} {w : Wait Place}
    (member : w ∈ (relay.startEntry key entry).1.timeline.readers) :
    w ∈ relay.timeline.readers ∨ w.key = key ∧ ∃ call, entry.call? = some call := by
  cases entry with
  | refused answer => exact .inl member
  | call id method params =>
    cases routed : Call.route method params with
    | error e =>
      simp only [startEntry, routed] at member
      exact .inl member
    | ok call =>
      have brought :
          w ∈ (invoke relay.timeline relay.config.receiveTimeout key call).1.readers := by
        simp only [startEntry, routed] at member
        split at member <;> exact member
      refine (mem_readers_invoke brought).imp_right fun own => ⟨own, call, ?_⟩
      rw [Entry.call?, routed]
      rfl

/-- A reader after `startEntries` was there before, or it is that of the call of one of
`entries`. -/
theorem mem_readers_startEntries {ticket : Ticket} {entries : List Entry} {first : Nat}
    {w : Wait Place} (member : w ∈ (relay.startEntries ticket entries first).1.timeline.readers) :
    w ∈ relay.timeline.readers ∨
      ∃ i call, w.key = (ticket, first + i) ∧ entries[i]?.bind Entry.call? = some call := by
  induction entries generalizing relay first with
  | nil => exact .inl member
  | cons entry entries ih =>
    rcases ih member with started | ⟨i, call, own, asked⟩
    · rcases mem_readers_startEntry started with old | ⟨own, call, asked⟩
      · exact .inl old
      · exact .inr ⟨0, call, own, asked⟩
    · exact .inr ⟨i + 1, call, by rw [own, Nat.add_right_comm, Nat.add_assoc], asked⟩

end Relay

end StateChannel
