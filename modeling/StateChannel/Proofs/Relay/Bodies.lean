import StateChannel.Proofs.Relay.Traffic
import StateChannel.Relay.Server

/-!
# Bodies being worked on

What a relay keeps of a body that it works on can be read off the calls of its parts: what has been
answered is done, and all else waits. The response is there once every part has been answered, and
is then final.

## Main definitions

* `Traffic.partsOf`: the parts of a body
* `Part.progress`: how far a part has come
* `Traffic.response?`: the response to a body, once it is there
* `Traffic.number`: the number of the call of a part

## Main results

* `Traffic.response?_run`: a response is final
* `Traffic.eq_of_number`: no two parts share a call
* `Traffic.exists_events`: the calls of the parts can take any steps
-/

namespace StateChannel

/-! ### Parts -/

namespace Part

variable {part : Part} {s : Interleaving}

/-- How far a `part` has come: it is `.done` with its answer, or `.waiting` with its `id`. -/
def progress (part : Part) (s : Interleaving) : Progress :=
  match part.answer? s with
  | some answer => .done answer
  | none =>
    match part.entry with
    | .call id _ _ => .waiting id
    | .refused _ => .waiting none

@[simp]
theorem answer?_progress (part : Part) (s : Interleaving) :
    (part.progress s).answer? = part.answer? s := by
  unfold progress
  cases part.answer? s with
  | some answer => rfl
  | none => cases part.entry <;> rfl

theorem progress_of_answer? {answer : Option Json} (answered : part.answer? s = some answer) :
    part.progress s = .done answer := by
  rw [progress, answered]

theorem answer?_of_refused {answer : Json} (refused : part.entry = .refused answer)
    (s : Interleaving) : part.answer? s = some (some answer) := by
  rw [answer?, refused]

theorem answer?_of_error {id : Option Json} {method : String} {params : Option Json} {e : ApiError}
    (asked : part.entry = .call id method params) (routed : Call.route method params = .error e)
    (s : Interleaving) : part.answer? s = some (Entry.answer id (.error e)) := by
  rw [answer?, asked]
  simp only [routed]

/-- The answer to a `part` depends only on the outcome of the call that was made for it. -/
theorem answer?_congr {later : Interleaving}
    (same : ∀ call number, part.made = some (call, number) →
      later.outcome? number = s.outcome? number) : part.answer? later = part.answer? s := by
  cases asked : part.entry with
  | refused answer => rw [answer?_of_refused asked, answer?_of_refused asked]
  | call id method params =>
    cases routed : Call.route method params with
    | error e => rw [answer?_of_error asked routed, answer?_of_error asked routed]
    | ok call =>
      simp only [answer?, asked, routed]
      cases made : part.made with
      | none => rfl
      | some numbered => simp only [Option.bind_some, same _ _ made]

theorem progress_congr {later : Interleaving}
    (same : ∀ call number, part.made = some (call, number) →
      later.outcome? number = s.outcome? number) : part.progress later = part.progress s := by
  rw [progress, progress, answer?_congr same]

/-- An `answer` is final: it is the same after any `moves`. -/
theorem answer?_run_of_some {answer : Option Json} (answered : part.answer? s = some answer)
    (moves : List Move) : part.answer? (s.run moves) = some answer := by
  -- Only an entry that has been made a call is answered by a move, and that answer is final.
  cases asked : part.entry with
  | refused given =>
    rw [answer?_of_refused asked] at answered ⊢
    exact answered
  | call id method params =>
    cases routed : Call.route method params with
    | error e =>
      rw [answer?_of_error asked routed] at answered ⊢
      exact answered
    | ok call =>
      simp only [answer?, asked, routed] at answered ⊢
      obtain ⟨outcome, given, told⟩ := Option.map_eq_some_iff.1 answered
      obtain ⟨numbered, made, ended⟩ := Option.bind_eq_some_iff.1 given
      rw [made, Option.bind_some, Interleaving.outcome?_run_of_some ended]
      exact congrArg some told

end Part

namespace Traffic

variable {t : Traffic} {body place : Nat} {part : Part} {call : Call} {index : Nat}

/-! ### Bodies -/

/-- The parts of `body`, in order. -/
def partsOf (t : Traffic) (body : Nat) : List Part := t.parts.filter fun part => part.body = body

/-- The response to `body`, once all its parts are answered. -/
def response? (t : Traffic) (isBatch : Bool) (body : Nat) : Option HttpResponse :=
  InFlight.response?
    ⟨.foreground, 0, isBatch, (t.partsOf body).map fun part => part.progress t.interleaving⟩

/-- The number of the call that is made for the part of `body` at `place`, or 0 if there is
none. -/
def number (t : Traffic) (body place : Nat) : Nat :=
  (((t.partsOf body)[place]?.bind Part.made).map Prod.snd).getD 0

theorem mem_parts_of_getElem? (present : (t.partsOf body)[place]? = some part) :
    part ∈ t.parts ∧ part.body = body := by
  simpa [partsOf] using List.mem_of_getElem? present

theorem number_of_made (present : (t.partsOf body)[place]? = some part)
    (made : part.made = some (call, index)) : t.number body place = index := by
  simp [number, present, made]

/-- A call is made for the part of `body` at `place`. -/
def HasCall (t : Traffic) (body place : Nat) : Prop :=
  ∃ part call index, (t.partsOf body)[place]? = some part ∧ part.made = some (call, index)

/-- An `event` leaves the parts of a `body` that is there what they are. -/
theorem partsOf_step (inside : body < t.bodies) (event : Event) :
    (t.step event).partsOf body = t.partsOf body := by
  cases event with
  | submit request =>
    have others : (Part.number t.bodies t.interleaving.calls.length
        (entries t.config request)).filter (fun part => part.body = body) = [] := by
      apply List.filter_eq_nil_iff.2
      intro part member
      have new := (entries_number _ _ _ part member).1
      simpa [new] using Nat.ne_of_gt inside
    exact (List.filter_append _ _).trans ((congrArg _ others).trans (List.append_nil _))
  | advance place | timeOut place | abort body => rfl

/-- The parts of the body that `.submit request` brings in are those of `Part.number`, with the
next numbers. -/
theorem partsOf_submit (sound : t.Sound) (request : HttpRequest) :
    (t.step (.submit request)).partsOf t.bodies =
      Part.number t.bodies t.interleaving.calls.length (entries t.config request) := by
  have old : t.parts.filter (fun part => part.body = t.bodies) = [] := by
    apply List.filter_eq_nil_iff.2
    intro part member
    simpa using Nat.ne_of_lt (sound.bodies part member)
  have new : (Part.number t.bodies t.interleaving.calls.length
      (entries t.config request)).filter (fun part => part.body = t.bodies) =
        Part.number t.bodies t.interleaving.calls.length (entries t.config request) := by
    apply List.filter_eq_self.2
    intro part member
    simpa using (entries_number _ _ _ part member).1
  exact (List.filter_append _ _).trans (by rw [old, new, List.nil_append])

theorem bodies_step (t : Traffic) (event : Event) : t.bodies ≤ (t.step event).bodies := by
  cases event with
  | submit request => exact Nat.le_succ _
  | advance place | timeOut place | abort body => exact Nat.le_refl _

theorem mapM_answer?_run {parts : List Part} {s : Interleaving} {answers : List (Option Json)}
    (answered : parts.mapM (fun part => part.answer? s) = some answers) (moves : List Move) :
    parts.mapM (fun part => part.answer? (s.run moves)) = some answers := by
  induction parts generalizing answers with
  | nil => exact answered
  | cons part parts ih =>
    simp only [List.mapM_cons, Option.bind_eq_bind, Option.bind_eq_some_iff] at answered ⊢
    obtain ⟨answer, first, rest, others, given⟩ := answered
    exact ⟨answer, Part.answer?_run_of_some first moves, rest, ih others, given⟩

/-- A `response` is final: no `event` changes it. -/
theorem response?_step {isBatch : Bool} {response : HttpResponse} (inside : body < t.bodies)
    (given : t.response? isBatch body = some response) (event : Event) :
    (t.step event).response? isBatch body = some response := by
  simp only [response?, InFlight.response?, List.mapM_map, Function.comp_def,
    Part.answer?_progress] at given ⊢
  obtain ⟨answers, answered, rfl⟩ := Option.map_eq_some_iff.1 given
  rw [partsOf_step inside, interleaving_step, mapM_answer?_run answered]
  rfl

theorem response?_run {isBatch : Bool} {response : HttpResponse} (inside : body < t.bodies)
    (given : t.response? isBatch body = some response) (events : List Event) :
    (t.run events).response? isBatch body = some response := by
  induction events generalizing t with
  | nil => exact given
  | cons event events ih =>
    exact ih (Nat.lt_of_lt_of_le inside (bodies_step t event)) (response?_step inside given event)

theorem config_run (t : Traffic) (events : List Event) : (t.run events).config = t.config := by
  induction events generalizing t with
  | nil => rfl
  | cons event events ih =>
    apply (ih (t.step event)).trans
    cases event <;> rfl

theorem bodies_run (t : Traffic) (events : List Event) : t.bodies ≤ (t.run events).bodies := by
  induction events generalizing t with
  | nil => exact Nat.le_refl _
  | cons event events ih => exact Nat.le_trans (bodies_step t event) (ih _)

/-! ### Numbers -/

/-- A `part` for which `call` is made has an entry that `Call.route` takes for `call`. -/
theorem entry_of_made (sound : t.Sound) (member : part ∈ t.parts)
    (made : part.made = some (call, index)) :
    ∃ id method params, part.entry = .call id method params ∧
      Call.route method params = .ok call := by
  have asked := sound.entries part member
  rw [made, Option.map_some] at asked
  -- An entry that is refused, or refused by the router, makes no call.
  cases entry : part.entry with
  | refused answer =>
    rw [entry] at asked
    cases asked
  | call id method params =>
    rw [entry, Entry.call?] at asked
    refine ⟨id, method, params, rfl, ?_⟩
    cases routed : Call.route method params with
    | error e =>
      rw [routed] at asked
      cases asked
    | ok given =>
      rw [routed] at asked
      exact congrArg Except.ok (Option.some.inj asked).symm

/-- Two parts for which calls of one `index` are made are the same part. -/
theorem eq_of_made (sound : t.Sound) {later : Part} (member : part ∈ t.parts)
    (memberToo : later ∈ t.parts) {next : Call} (made : part.made = some (call, index))
    (madeToo : later.made = some (next, index)) : part = later := by
  obtain ⟨stage, found⟩ := getElem?_calls_of_made sound member made
  obtain ⟨other, foundToo⟩ := getElem?_calls_of_made sound memberToo madeToo
  obtain ⟨rfl, rfl⟩ := Pending.mk.inj (Option.some.inj (found.symm.trans foundToo))
  obtain ⟨only, _, unique⟩ := existsUnique_part sound found
  obtain ⟨place, present⟩ := List.mem_iff_getElem?.1 member
  obtain ⟨twin, presentToo⟩ := List.mem_iff_getElem?.1 memberToo
  obtain rfl := (unique place ⟨part, present, made⟩).trans
    (unique twin ⟨later, presentToo, madeToo⟩).symm
  exact Option.some.inj (present.symm.trans presentToo)

/-- Two parts whose calls have one `index` are at the same `place` of the same `body`. -/
theorem eq_of_number (sound : t.Sound) {other twin : Nat} {later : Part} {next : Call}
    (present : (t.partsOf body)[place]? = some part) (made : part.made = some (call, index))
    (presentToo : (t.partsOf other)[twin]? = some later)
    (madeToo : later.made = some (next, index)) : body = other ∧ place = twin := by
  obtain ⟨member, rfl⟩ := mem_parts_of_getElem? present
  obtain ⟨memberToo, rfl⟩ := mem_parts_of_getElem? presentToo
  obtain rfl := eq_of_made sound member memberToo made madeToo
  refine ⟨rfl, ?_⟩
  -- Within a body the calls are numbered in order.
  have apart :=
    List.pairwise_iff_getElem.1 ((pairwise_made sound).filter fun p => p.body = part.body)
  obtain ⟨inside, holds⟩ := List.getElem?_eq_some_iff.1 present
  obtain ⟨insideToo, holdsToo⟩ := List.getElem?_eq_some_iff.1 presentToo
  have first : ((t.partsOf part.body)[place]).made = some (call, index) := by rw [holds, made]
  have second : ((t.partsOf part.body)[twin]).made = some (call, index) := by rw [holdsToo, made]
  rcases Nat.lt_trichotomy place twin with less | equal | more
  · exact absurd rfl (apart _ _ inside insideToo less _ first _ second)
  · exact equal
  · exact absurd rfl (apart _ _ insideToo inside more _ second _ first)

/-- Any `moves` of steps and of time-outs can be had by `events` of the traffic. -/
theorem exists_events (sound : t.Sound) {moves : List Move}
    (own : ∀ move ∈ moves, ∃ index, move = .advance index ∨ move = .timeOut index) :
    ∃ events, t.run events = { t with interleaving := t.interleaving.run moves } := by
  induction moves generalizing t with
  | nil => exact ⟨[], rfl⟩
  | cons move moves ih =>
    have later := fun other member => own other (List.mem_cons_of_mem move member)
    obtain ⟨index, of⟩ := own move List.mem_cons_self
    cases found : t.interleaving.calls[index]? with
    | none =>
      -- There is no such call, and nothing happens.
      have idle : t.interleaving.move move = t.interleaving := by
        rcases of with rfl | rfl
        · exact Interleaving.move_advance_none found
        · have outside : t.interleaving.calls.length ≤ index := List.getElem?_eq_none_iff.1 found
          simp [Interleaving.move, Interleaving.setStage, List.modify_eq_self outside]
      rw [Interleaving.run_cons, idle]
      exact ih sound later
    | some p =>
      obtain ⟨place, ⟨part, present, made⟩, _⟩ := existsUnique_part sound found
      have called : t.callAt? place = some index := by simp [callAt?, present, made]
      have one : ∃ event, t.step event = { t with interleaving := t.interleaving.run [move] } := by
        rcases of with rfl | rfl
        · exact ⟨.advance place, by simp [step, Traffic.moves, called]⟩
        · exact ⟨.timeOut place, by simp [step, Traffic.moves, called]⟩
      obtain ⟨event, stepped⟩ := one
      have next := sound_step sound event
      rw [stepped] at next
      obtain ⟨events, rest⟩ := ih next later
      refine ⟨event :: events, ?_⟩
      show (t.step event).run events = _
      rw [stepped, rest]
      rfl

end Traffic

end StateChannel
