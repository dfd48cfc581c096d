import StateChannel.Proofs.Relay.Linearization

/-!
# The history of a relay

What holds of calls holds of the bodies that make them: single requests, notifications and
batches, whether they are answered, wait or have been dropped. The parts of the bodies and the
calls are counted alike, so that every call belongs to one part. What a `Relay` does in its own
order is one such run, by `Relay.exists_traffic`.

## Main definitions

* `Traffic.Sound`: the calls are those of the parts

## Main results

* `Traffic.sound_run`: this holds along every run
* `Traffic.toList_log_run`: a log holds what the history says
* `Traffic.exists_moment`: every answer tells of one moment
* `Traffic.linearizable`: the history of a relay accounts for every log and every answer
-/

namespace StateChannel

/-- The call that `.begin` begins; no other move begins one. -/
def Move.begun? : Move → Option Call
  | .begin call => some call
  | _ => none

namespace Interleaving

variable {s : Interleaving}

theorem map_call_move (s : Interleaving) (move : Move) :
    (s.move move).calls.map Pending.call = s.calls.map Pending.call ++ move.begun?.toList := by
  -- A change of stage leaves the calls what they are, so only a new call is added.
  have same (s : Interleaving) (index : Nat) (change : Stage → Stage) :
      (s.setStage index change).calls.map Pending.call = s.calls.map Pending.call ++ [] := by
    apply List.ext_getElem?
    intro place
    simp only [setStage, List.getElem?_map, List.getElem?_modify, List.append_nil]
    cases s.calls[place]? <;> simp
    split <;> rfl
  cases move with
  | begin call => exact List.map_append
  | advance index =>
    cases found : s.calls[index]? with
    | none =>
      rw [move_advance_none found]
      exact (List.append_nil _).symm
    | some p =>
      rw [move_advance found]
      exact same { s with registry := _ } index _
  | timeOut index => exact same s index Stage.timeOut
  | drop index => exact same s index Stage.drop

theorem map_call_run (s : Interleaving) (moves : List Move) :
    (s.run moves).calls.map Pending.call =
      s.calls.map Pending.call ++ moves.filterMap Move.begun? := by
  induction moves generalizing s with
  | nil => exact (List.append_nil _).symm
  | cons move moves ih =>
    rw [run_cons, ih, map_call_move, List.append_assoc]
    cases begun : move.begun? <;> simp [begun]

end Interleaving

namespace Traffic

/-- The calls of the interleaving are those made for the parts, numbered in the same order; a part
has made the call that its entry asks for, and belongs to one of the `bodies`. -/
structure Sound (t : Traffic) : Prop where
  calls : t.interleaving.Sound
  made : t.parts.filterMap Part.made = (t.interleaving.calls.map Pending.call).zipIdx
  entries : ∀ part ∈ t.parts, part.made.map Prod.fst = part.entry.call?
  bodies : ∀ part ∈ t.parts, part.body < t.bodies

variable {t : Traffic}

theorem sound_start (config : Config) : (start config).Sound where
  calls := Interleaving.sound_start
  made := rfl
  entries := fun _ member => nomatch member
  bodies := fun _ member => nomatch member

theorem entries_number (body next : Nat) (entries : List Entry) :
    ∀ part ∈ Part.number body next entries,
      part.body = body ∧ part.made.map Prod.fst = part.entry.call? := by
  induction entries generalizing next with
  | nil => exact fun part member => nomatch member
  | cons entry entries ih =>
    intro part member
    cases call : entry.call? with
    | none =>
      simp only [Part.number, call] at member
      rcases List.mem_cons.1 member with rfl | later
      · exact ⟨rfl, call.symm⟩
      · exact ih next part later
    | some c =>
      simp only [Part.number, call] at member
      rcases List.mem_cons.1 member with rfl | later
      · exact ⟨rfl, call.symm⟩
      · exact ih (next + 1) part later

/-- The calls that `event` begins: those of the entries of a submitted body. -/
def begun (t : Traffic) : Event → List Call
  | .submit request => (entries t.config request).filterMap Entry.call?
  | _ => []

theorem filterMap_begun_moves (t : Traffic) (event : Event) :
    (t.moves event).filterMap Move.begun? = t.begun event := by
  cases event with
  | submit request => simp [moves, begun, List.filterMap_map, Function.comp_def, Move.begun?]
  | advance place => cases call : t.callAt? place <;> simp [moves, begun, call, Move.begun?]
  | timeOut place => cases call : t.callAt? place <;> simp [moves, begun, call, Move.begun?]
  | abort body => simp [moves, begun, List.filterMap_map, Function.comp_def, Move.begun?]

theorem sound_step (sound : t.Sound) (event : Event) : (t.step event).Sound where
  calls := by
    rw [interleaving_step]
    exact Interleaving.sound_run sound.calls _
  made := by
    -- The calls that begin come after the others, and so do the parts that they are made for.
    rw [interleaving_step, Interleaving.map_call_run, filterMap_begun_moves, List.zipIdx_append,
      ← sound.made]
    cases event with
    | submit request =>
      simp [step, begun, Part.filterMap_made_number]
    | advance place => exact (List.append_nil _).symm
    | timeOut place => exact (List.append_nil _).symm
    | abort body => exact (List.append_nil _).symm
  entries := by
    intro part member
    cases event with
    | submit request =>
      rcases List.mem_append.1 member with old | new
      · exact sound.entries part old
      · exact (entries_number _ _ _ part new).2
    | advance place => exact sound.entries part member
    | timeOut place => exact sound.entries part member
    | abort body => exact sound.entries part member
  bodies := by
    intro part member
    cases event with
    | submit request =>
      rcases List.mem_append.1 member with old | new
      · exact Nat.lt_succ_of_lt (sound.bodies part old)
      · exact Nat.lt_succ_of_le (Nat.le_of_eq (entries_number _ _ _ part new).1)
    | advance place => exact sound.bodies part member
    | timeOut place => exact sound.bodies part member
    | abort body => exact sound.bodies part member

theorem sound_run (sound : t.Sound) (events : List Event) : (t.run events).Sound := by
  induction events generalizing t with
  | nil => exact sound
  | cons event events ih => exact ih (sound_step sound event)

/-- After a run the log of `channel` holds what it held before, and then the messages that
`t.history events` lists for `channel`. -/
theorem toList_log_run (sound : t.Sound) (events : List Event) (channel : String) :
    ((t.run events).log channel).toList =
      (t.log channel).toList ++ Stored.messagesOn channel (t.history events) := by
  induction events generalizing t with
  | nil => exact (List.append_nil _).symm
  | cons event events ih =>
    apply (ih (sound_step sound event)).trans
    simp only [log, interleaving_step, Interleaving.toList_run sound.calls, history,
      Stored.messagesOn_append, List.append_assoc]

/-! ### Parts and their calls -/

/-- A part that made `call` under `index` finds `call` there in the interleaving, in some stage. -/
theorem getElem?_calls_of_made (sound : t.Sound) {part : Part} (member : part ∈ t.parts)
    {call : Call} {index : Nat} (made : part.made = some (call, index)) :
    ∃ stage, t.interleaving.calls[index]? = some ⟨call, stage⟩ := by
  have numbered : (call, index) ∈ (t.interleaving.calls.map Pending.call).zipIdx := by
    rw [← sound.made]
    exact List.mem_filterMap.2 ⟨part, member, made⟩
  have called := List.mem_zipIdx_iff_getElem?.1 numbered
  rw [List.getElem?_map] at called
  obtain ⟨⟨_, stage⟩, found, rfl⟩ := Option.map_eq_some_iff.1 called
  exact ⟨stage, found⟩

/-- The calls are numbered 0, 1, 2, … as they are made, so two parts never made calls of one
index. -/
theorem pairwise_made (sound : t.Sound) : t.parts.Pairwise fun p q =>
    ∀ x, p.made = some x → ∀ y, q.made = some y → x.2 ≠ y.2 := by
  rw [← List.pairwise_filterMap, sound.made, ← List.pairwise_map, List.zipIdx_map_snd]
  exact List.nodup_range'

/-- Every call of the interleaving was made for exactly one part. -/
theorem existsUnique_part (sound : t.Sound) {index : Nat} {call : Call} {stage : Stage}
    (found : t.interleaving.calls[index]? = some ⟨call, stage⟩) :
    ∃! place : Nat, ∃ part : Part,
      t.parts[place]? = some part ∧ part.made = some (call, index) := by
  -- The calls are numbered in order, so the index of this call is some part's number.
  have called : (t.interleaving.calls.map Pending.call)[index]? = some call := by
    rw [List.getElem?_map, found]
    rfl
  have numbered : (call, index) ∈ (t.interleaving.calls.map Pending.call).zipIdx :=
    List.mem_zipIdx_iff_getElem?.2 called
  rw [← sound.made] at numbered
  obtain ⟨part, member, made⟩ := List.mem_filterMap.1 numbered
  obtain ⟨place, present⟩ := List.mem_iff_getElem?.1 member
  refine ⟨place, ⟨part, present, made⟩, ?_⟩
  -- Two parts never have the same number.
  have apart := pairwise_made sound
  rintro other ⟨twin, presentToo, madeToo⟩
  obtain ⟨inside, rfl⟩ := List.getElem?_eq_some_iff.1 present
  obtain ⟨insideToo, rfl⟩ := List.getElem?_eq_some_iff.1 presentToo
  rcases Nat.lt_trichotomy other place with less | same | more
  · exact absurd rfl (List.pairwise_iff_getElem.1 apart _ _ insideToo inside less _ madeToo _ made)
  · exact same
  · exact absurd rfl (List.pairwise_iff_getElem.1 apart _ _ inside insideToo more _ made _ madeToo)

/-- A part whose entry `Call.route` takes for `call` has made `call`, under some `index`. -/
theorem made_of_route (sound : t.Sound) {part : Part} (member : part ∈ t.parts) {id : Option Json}
    {method : String} {params : Option Json} {call : Call}
    (asked : part.entry = .call id method params) (routed : Call.route method params = .ok call) :
    ∃ index, part.made = some (call, index) := by
  have made := sound.entries part member
  rw [asked, Entry.call?, routed] at made
  obtain ⟨⟨_, index⟩, found, rfl⟩ := Option.map_eq_some_iff.1 made
  exact ⟨index, found⟩

/-- The answer to a part that made a call under `index` is `Entry.answer id` of the outcome of that
call. -/
theorem answer?_of_made {part : Part} {id : Option Json} {method : String} {params : Option Json}
    {call : Call} (asked : part.entry = .call id method params)
    (routed : Call.route method params = .ok call) {index : Nat}
    (made : part.made = some (call, index)) (s : Interleaving) :
    part.answer? s = (s.outcome? index).map fun outcome => Entry.answer id (.ok outcome) := by
  simp [Part.answer?, asked, routed, made]

/-! ### One moment for every answer -/

/-- Only `.advance` lets a call take a step: the moves of any other `event` are quiet. -/
theorem isQuiet_moves {event : Event} (other : ∀ place, event ≠ .advance place) :
    ∀ move ∈ t.moves event, move.IsQuiet := by
  intro move member index
  cases event with
  | advance place => exact absurd rfl (other place)
  | submit request =>
    obtain ⟨call, _, rfl⟩ := List.mem_map.1 member
    exact Move.noConfusion
  | timeOut place =>
    obtain ⟨number, _, rfl⟩ := List.mem_map.1 member
    exact Move.noConfusion
  | abort body =>
    obtain ⟨number, _, rfl⟩ := List.mem_map.1 member
    exact Move.noConfusion

/-- A call that had no outcome before `event` and has one after it got what `Call.outcome` gives on
the log of its channel before `event`. -/
theorem outcome_of_step (sound : t.Sound) {index : Nat} {call : Call} {stage : Stage}
    (found : t.interleaving.calls[index]? = some ⟨call, stage⟩)
    (unanswered : t.interleaving.outcome? index = none) {event : Event} {outcome : Outcome}
    (answered : (t.step event).interleaving.outcome? index = some outcome) :
    outcome = call.outcome (t.log call.channel).toList := by
  rw [interleaving_step] at answered
  by_cases stepping : ∃ place, event = .advance place
  · obtain ⟨place, rfl⟩ := stepping
    cases called : t.callAt? place with
    | none =>
      -- Nothing moves, so nothing is answered.
      rw [moves, called, Option.toList_none, List.map_nil, Interleaving.run_nil, unanswered]
        at answered
      exact nomatch answered
    | some number =>
      rw [moves, called, Option.toList_some, List.map_singleton, Interleaving.run_cons,
        Interleaving.run_nil] at answered
      exact (Interleaving.outcome_of_move sound.calls found unanswered answered).2
  · have quiet := isQuiet_moves (t := t) fun place same => stepping ⟨place, same⟩
    rw [Interleaving.outcome?_run_of_isQuiet quiet, unanswered] at answered
    exact nomatch answered

/-- A part that `.submit request` brings in has a call without an outcome. -/
theorem outcome?_of_new {request : HttpRequest} {place : Nat} {part : Part}
    (present : (t.step (.submit request)).parts[place]? = some part)
    (new : t.parts[place]? ≠ some part) {call : Call} {index : Nat}
    (made : part.made = some (call, index)) :
    (t.step (.submit request)).interleaving.outcome? index = none := by
  -- The calls of new parts have new numbers.
  have outside : t.interleaving.calls.length ≤ index := by
    have member : part ∈ Part.number t.bodies t.interleaving.calls.length
        (entries t.config request) := by
      by_cases inside : place < t.parts.length
      · exact absurd ((List.getElem?_append_left inside).symm.trans present) new
      · exact List.mem_of_getElem?
          ((List.getElem?_append_right (Nat.le_of_not_lt inside)).symm.trans present)
    have numbered : (call, index) ∈
        (Part.number t.bodies t.interleaving.calls.length (entries t.config request)).filterMap
          Part.made := List.mem_filterMap.2 ⟨part, member, made⟩
    rw [Part.filterMap_made_number] at numbered
    exact (List.mem_zipIdx numbered).1
  rw [interleaving_step,
    Interleaving.outcome?_run_of_isQuiet (isQuiet_moves fun _ => Event.noConfusion)]
  simp [Interleaving.outcome?, List.getElem?_eq_none_iff.2 outside]

/-- Between the moment at which a part stands in a run and the moment at which it has its `answer`
there is an `event` that gives the answer, and the answer is that of its call, made alone on the
messages of the channel before `event`. -/
theorem exists_moment (config : Config) (events : List Event) {place : Nat} {part : Part}
    (present : ((start config).run events).parts[place]? = some part) {id : Option Json}
    {method : String} {params : Option Json} {call : Call}
    (asked : part.entry = .call id method params) (routed : Call.route method params = .ok call)
    {answer : Option Json}
    (answered : part.answer? ((start config).run events).interleaving = some answer) :
    ∃ before event after, events = before ++ event :: after ∧
      ((start config).run before).parts[place]? = some part ∧
      part.answer? ((start config).run before).interleaving = none ∧
      part.answer? ((start config).run (before ++ [event])).interleaving = some answer ∧
      answer = Entry.answer id (.ok (call.outcome
        (Stored.messagesOn call.channel ((start config).history before)))) := by
  have sound (events : List Event) : ((start config).run events).Sound :=
    sound_run (sound_start config) events
  -- From the end of the run: the part has just come in, has just been answered, or has its answer
  -- from before.
  induction events using List.reverseRecOn with
  | nil => simp [run, start] at present
  | append_singleton events event ih =>
    rw [run_concat] at present answered
    have member : part ∈ ((start config).run (events ++ [event])).parts := by
      rw [run_concat]
      exact List.mem_of_getElem? present
    obtain ⟨index, made⟩ := made_of_route (sound (events ++ [event])) member asked routed
    rw [answer?_of_made asked routed made] at answered
    obtain ⟨outcome, after, rfl⟩ := Option.map_eq_some_iff.1 answered
    by_cases old : ((start config).run events).parts[place]? = some part
    · cases earlier : ((start config).run events).interleaving.outcome? index with
      | some given =>
        have final : given = outcome := by
          have kept := Interleaving.outcome?_run_of_some earlier
            (((start config).run events).moves event)
          rw [← interleaving_step, after] at kept
          exact (Option.some.inj kept).symm
        obtain ⟨before, moment, rest, same, told⟩ := ih old (by
          rw [answer?_of_made asked routed made, earlier, final]
          rfl)
        exact ⟨before, moment, rest ++ [event], by simp [same], told⟩
      | none =>
        obtain ⟨stage, found⟩ :=
          getElem?_calls_of_made (sound events) (List.mem_of_getElem? old) made
        refine ⟨events, event, [], rfl, old, ?_, ?_, ?_⟩
        · rw [answer?_of_made asked routed made, earlier]
          rfl
        · rw [run_concat, answer?_of_made asked routed made, after]
          rfl
        · have told := outcome_of_step (sound events) found earlier after
          rw [told, toList_log_run (sound_start config)]
          rfl
    · cases event with
      | submit request =>
        rw [outcome?_of_new present old made] at after
        exact nomatch after
      | advance place => exact absurd present old
      | timeOut place => exact absurd present old
      | abort body => exact absurd present old

/-! ### The whole history -/

/-- As far as the calls see, a run of `events` is a run of `Interleaving` by some `moves`, with the
same history. -/
theorem exists_moves (config : Config) (events : List Event) :
    ∃ moves : List Move,
      ((start config).run events).interleaving = Interleaving.start.run moves ∧
        (start config).history events = Interleaving.start.history moves := by
  induction events using List.reverseRecOn with
  | nil => exact ⟨[], rfl, rfl⟩
  | append_singleton events event ih =>
    obtain ⟨moves, reached, stored⟩ := ih
    refine ⟨moves ++ ((start config).run events).moves event, ?_, ?_⟩
    · rw [run_concat, interleaving_step, Interleaving.run_append, reached]
    · rw [history_append, Interleaving.history_append, stored, ← reached]
      simp [history]

/-- **The history of a relay.** Take any `events`: bodies of single requests, notifications and
batches come in, their calls take steps in any order, wait, and are dropped. First, the log of
every `channel` is what `history events` stored there, in that order. Second, no index stands twice
in `history events`. Third, each `stored` message comes from one part, which made the `.send` of
this message on this channel. Fourth, take a part whose entry is a `call` and which has an
`answer`: if `call` is a `.send`, its message is in the history, and in any case there is one
`event` before which the part was there without an answer and after which it has its `answer`, the
one that `call` alone would get from the messages its channel had before `event`. -/
theorem linearizable (config : Config) (events : List Event) :
    (∀ channel, (((start config).run events).log channel).toList =
      Stored.messagesOn channel ((start config).history events)) ∧
    ((start config).history events).Pairwise (fun stored later => stored.index ≠ later.index) ∧
    (∀ stored ∈ (start config).history events, ∃! place : Nat, ∃ part : Part,
      ((start config).run events).parts[place]? = some part ∧
        part.made = some (.send stored.channel stored.message, stored.index)) ∧
    ∀ (place : Nat) (part : Part) (id : Option Json) (method : String) (params : Option Json)
      (call : Call) (answer : Option Json),
      ((start config).run events).parts[place]? = some part →
      part.entry = .call id method params → Call.route method params = .ok call →
      part.answer? ((start config).run events).interleaving = some answer →
      (∀ channel message, call = .send channel message → ∃ index,
        part.made = some (call, index) ∧
          ⟨index, channel, message⟩ ∈ (start config).history events) ∧
      ∃ before event after, events = before ++ event :: after ∧
        ((start config).run before).parts[place]? = some part ∧
        part.answer? ((start config).run before).interleaving = none ∧
        part.answer? ((start config).run (before ++ [event])).interleaving = some answer ∧
        answer = Entry.answer id (.ok (call.outcome
          (Stored.messagesOn call.channel ((start config).history before)))) := by
  have sound := sound_run (sound_start config) events
  obtain ⟨moves, reached, stored⟩ := exists_moves config events
  refine ⟨fun channel => ?_, ?_, ?_, ?_⟩
  · rw [toList_log_run (sound_start config)]
    rfl
  · rw [stored, ← List.pairwise_map]
    exact Interleaving.nodup_history moves
  · intro entry member
    -- A send that has been stored is a call of the interleaving, and every call is of one part.
    rw [stored, Interleaving.mem_history_iff] at member
    obtain ⟨stage, found, _⟩ := member
    exact existsUnique_part sound (reached ▸ found)
  · intro place part id method params call answer present asked routed answered
    refine ⟨?_, exists_moment config events present asked routed answered⟩
    rintro channel message rfl
    have member := List.mem_of_getElem? present
    obtain ⟨index, made⟩ := made_of_route sound member asked routed
    refine ⟨index, made, ?_⟩
    rw [answer?_of_made asked routed made] at answered
    obtain ⟨outcome, given, _⟩ := Option.map_eq_some_iff.1 answered
    -- The call is answered, so it is past its storing and in the history.
    obtain ⟨other, after⟩ := Interleaving.outcome?_eq_some_iff.1 given
    obtain ⟨stage, found⟩ := getElem?_calls_of_made sound member made
    obtain ⟨rfl, rfl⟩ := Pending.mk.inj (Option.some.inj (found.symm.trans after))
    rw [stored, Interleaving.mem_history_iff]
    exact ⟨.answered outcome, reached ▸ found, trivial⟩

/-- A batch of a `receive` and a `send` without an id: the reader finds nothing and waits, the
message is stored, and the reader is woken and looks again. -/
def overtaken : List Event :=
  [.submit ⟨"POST", "/", [],
      ("[\x7b\"id\":\"r\",\"method\":\"receive\",\"params\":[\"a\",0]\x7d," ++
        "\x7b\"method\":\"send\",\"params\":[\"a\",\"m\"]\x7d]").toUTF8⟩,
    .advance 0, .advance 0, .advance 0, .advance 0, .advance 1, .advance 1, .advance 1,
    .advance 0, .advance 0]

/-- The first entry of the batch in `overtaken`, a `receive` on channel `a`. -/
def reading : Part where
  body := 0
  entry := .call (some (.string "r")) "receive" (some (.array [.string "a", Json.ofCount 0]))
  made := some (.receive "a" 0, 0)

/-- The second entry of the batch in `overtaken`, a `send` on channel `a`. -/
def sending : Part where
  body := 0
  entry := .call none "send" (some (.array [.string "a", .string "m"]))
  made := some (.send "a" (.string "m"), 1)

/-- The case of `linearizable` for `overtaken`: what `sending` asks for has been stored, and there
was an `event` before which the message was in the log and `reading` had no answer, and after which
`reading` is told of the message. -/
theorem linearizable_overtaken :
    (∃ index, sending.made = some (.send "a" (.string "m"), index) ∧
      ⟨index, "a", .string "m"⟩ ∈ (start .standard).history overtaken) ∧
    ∃ before event after, overtaken = before ++ event :: after ∧
      ((start .standard).run before).parts[0]? = some reading ∧
      reading.answer? ((start .standard).run before).interleaving = none ∧
      reading.answer? ((start .standard).run (before ++ [event])).interleaving =
        some (Entry.answer (some (.string "r")) (.ok (.received ⟨[.string "m"], 1⟩))) ∧
      Entry.answer (some (.string "r")) (.ok (.received ⟨[.string "m"], 1⟩)) =
        Entry.answer (some (.string "r")) (.ok ((Call.receive "a" 0).outcome
          (Stored.messagesOn "a" ((start .standard).history before)))) := by
  constructor
  · exact ((linearizable .standard overtaken).2.2.2 1 sending none "send"
      (some (.array [.string "a", .string "m"])) (.send "a" (.string "m")) none
      rfl rfl rfl rfl).1 "a" (.string "m") rfl
  · exact ((linearizable .standard overtaken).2.2.2 0 reading (some (.string "r")) "receive"
      (some (.array [.string "a", Json.ofCount 0])) (.receive "a" 0)
      (Entry.answer (some (.string "r")) (.ok (.received ⟨[.string "m"], 1⟩))) rfl rfl rfl rfl).2

end Traffic

end StateChannel
