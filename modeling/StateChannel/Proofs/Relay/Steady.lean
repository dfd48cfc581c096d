import StateChannel.Proofs.Relay.Attendance

/-!
# A relay between operations

Between operations the readers of a relay are the requests that wait, none of them is woken, and
all their deadlines lie ahead. So whatever is done to a relay, a submission is answered at most once, and is
answered when the time of its readers is up.

## Main definitions

* `Timeline.Starts`: calls have started, and some of them wait
* `Relay.Steady`: what holds between operations
* `Relay.elapsed`: the time that passes in the course of operations

## Main results

* `Relay.Steady.operateAll`: a relay stays steady
* `Relay.Tracks.operateAll`: a submission is answered at most once, with what it has come to
* `Relay.Tracks.exists_response`: it is answered when the time of its readers is up
-/

namespace StateChannel

/-! ### Calls that start -/

/-- Calls have started between `t` and `later`: there are new readers at the places `new`, which
wait for `timeout` if they have not been woken, and no time has passed. -/
structure Timeline.Starts (t later : Timeline Place) (timeout : Nat) (new : List Place) :
    Prop where
  readers : (later.readers.map (·.key)).Perm (t.readers.map (·.key) ++ new)
  waits : ∀ w ∈ later.waits, w ∈ t.waits ∨
    w.key ∈ new ∧ w.deadline = t.now + timeout ∧ 0 < timeout
  now : later.now = t.now

namespace Timeline

variable {t later last : Timeline Place} {timeout : Nat} {new more : List Place}

theorem Starts.refl (t : Timeline Place) (timeout : Nat) : t.Starts t timeout [] where
  readers := by rw [List.append_nil]
  waits := fun _ member => .inl member
  now := rfl

theorem Starts.trans (first : t.Starts later timeout new)
    (second : later.Starts last timeout more) : t.Starts last timeout (new ++ more) where
  readers := by
    rw [← List.append_assoc]
    exact second.readers.trans (first.readers.append_right more)
  waits w member := by
    rcases second.waits w member with old | ⟨own, due, long⟩
    · exact (first.waits w old).imp_right fun ⟨own, rest⟩ => ⟨List.mem_append_left _ own, rest⟩
    · exact .inr ⟨List.mem_append_right _ own, first.now ▸ due, long⟩
  now := second.now.trans first.now

theorem starts_append (t : Timeline Place) (channel : String) (message : Json) (timeout : Nat) :
    t.Starts (t.append channel message).1 timeout [] where
  readers := by
    -- The readers are the same, and some of them have been woken.
    rw [List.append_nil]
    refine List.Perm.map _ ?_
    show ((t.woken ++ _) ++ _).Perm (t.woken ++ t.waits)
    rw [List.append_assoc]
    exact (List.filter_append_perm _ t.waits).append_left t.woken
  waits w member := .inl (List.mem_filter.1 member).1
  now := rfl

theorem starts_receive (t : Timeline Place) (key : Place) (channel : String)
    (start timeout : Nat) :
    t.Starts (t.receive key channel start timeout).1 timeout
      (if (t.receive key channel start timeout).2.isNone then [key] else []) := by
  by_cases told : start < (t.registry.logOf channel).seq ∨ timeout = 0
  · rw [receive_of_told told]
    exact ⟨(Starts.refl t timeout).readers, fun _ => .inl, rfl⟩
  · rw [not_or, Nat.not_lt] at told
    have long := Nat.pos_of_ne_zero told.2
    rw [receive_of_waits told.1 long]
    refine ⟨?_, fun w member => ?_, rfl⟩
    · -- The new reader stands behind all others.
      show ((t.woken ++ (t.waits ++ [_])).map _).Perm ((t.woken ++ t.waits).map _ ++ [_])
      rw [← List.append_assoc, List.map_append]
      exact List.Perm.refl _
    · rcases List.mem_append.1 member with old | single
      · exact .inl old
      · rw [List.mem_singleton.1 single]
        exact .inr ⟨List.mem_singleton_self _, rfl, long⟩

end Timeline

namespace Relay

variable {relay : Relay} {ticket : Ticket}

theorem starts_invoke (t : Timeline Place) (timeout : Duration) (key : Place) (call : Call) :
    t.Starts (invoke t timeout key call).1 timeout.wait
      (if (invoke t timeout key call).2.isNone then [key] else []) := by
  cases call with
  | send channel message => exact t.starts_append channel message _
  | getSeq channel => exact ⟨(Timeline.Starts.refl t 0).readers, fun _ => .inl, rfl⟩
  | receive channel start =>
    simpa [invoke] using t.starts_receive key channel start.toNat timeout.wait

/-- The places under `ticket` of the entries that wait, the first entry having number `first`. -/
def waitingPlaces (ticket : Ticket) : Nat → List Progress → List Place
  | _, [] => []
  | first, .waiting _ :: entries => (ticket, first) :: waitingPlaces ticket (first + 1) entries
  | first, .done _ :: entries => waitingPlaces ticket (first + 1) entries

theorem mem_waitingPlaces {first : Nat} {entries : List Progress} {key : Place} :
    key ∈ waitingPlaces ticket first entries ↔
      ∃ index id, key = (ticket, first + index) ∧ entries[index]? = some (.waiting id) := by
  induction entries generalizing first with
  | nil => simp [waitingPlaces]
  | cons progress entries ih =>
    have later : key ∈ waitingPlaces ticket (first + 1) entries ↔ ∃ index id,
        key = (ticket, first + (index + 1)) ∧
          (progress :: entries)[index + 1]? = some (.waiting id) := by
      simp only [ih, List.getElem?_cons_succ, Nat.add_assoc, Nat.add_comm 1]
    -- The first request has the first place, and the others are counted on.
    have all : (∃ index id, key = (ticket, first + index) ∧
        (progress :: entries)[index]? = some (.waiting id)) ↔
          (∃ id, key = (ticket, first) ∧ progress = .waiting id) ∨
            key ∈ waitingPlaces ticket (first + 1) entries := by
      rw [later]
      constructor
      · rintro ⟨_ | index, id, same, found⟩
        · exact .inl ⟨id, same, Option.some.inj found⟩
        · exact .inr ⟨index, id, same, found⟩
      · rintro (⟨id, same, rfl⟩ | ⟨index, id, same, found⟩)
        · exact ⟨0, id, same, rfl⟩
        · exact ⟨index + 1, id, same, found⟩
    rw [all]
    cases progress <;> simp [waitingPlaces]

theorem nodup_waitingPlaces (ticket : Ticket) (first : Nat) (entries : List Progress) :
    (waitingPlaces ticket first entries).Nodup := by
  induction entries generalizing first with
  | nil => exact List.nodup_nil
  | cons progress entries ih =>
    cases progress with
    | done answer => exact ih (first + 1)
    | waiting id =>
      refine List.nodup_cons.2 ⟨fun later => ?_, ih (first + 1)⟩
      obtain ⟨index, _, same, -⟩ := mem_waitingPlaces.1 later
      have past := congrArg Prod.snd same
      omega

theorem starts_startEntry (relay : Relay) (ticket : Ticket) (index : Nat) (entry : Entry) :
    relay.timeline.Starts (relay.startEntry (ticket, index) entry).1.timeline
      relay.config.receiveTimeout.wait
      (waitingPlaces ticket index [(relay.startEntry (ticket, index) entry).2]) := by
  cases entry with
  | refused answer => exact .refl _ _
  | call id method params =>
    cases routed : Call.route method params with
    | error e =>
      simp only [startEntry, routed]
      exact .refl _ _
    | ok call =>
      have started := starts_invoke relay.timeline relay.config.receiveTimeout (ticket, index) call
      simp only [startEntry, routed]
      -- The entry has a waiting place exactly if its call has no outcome yet.
      split
      · next outcome given =>
        rw [given] at started
        exact started
      · next waits =>
        rw [waits] at started
        exact started

theorem starts_startEntries (relay : Relay) (ticket : Ticket) (entries : List Entry)
    (first : Nat) :
    relay.timeline.Starts (relay.startEntries ticket entries first).1.timeline
      relay.config.receiveTimeout.wait
      (waitingPlaces ticket first (relay.startEntries ticket entries first).2) := by
  induction entries generalizing relay first with
  | nil => exact .refl _ _
  | cons entry entries ih =>
    have started := starts_startEntry relay ticket first entry
    have rest := ih (relay.startEntry (ticket, first) entry).1 (first + 1)
    obtain ⟨timeline, metrics, same⟩ := relay.exists_startEntry_eq (ticket, first) entry
    have config : (relay.startEntry (ticket, first) entry).1.config = relay.config := by rw [same]
    rw [config] at rest
    have both := started.trans rest
    simp only [startEntries]
    cases progress : (relay.startEntry (ticket, first) entry).2 <;>
      · rw [progress] at both
        exact both

/-! ### Readers that leave -/

section Leaving

variable {P : InFlight → Prop} {given : List HttpResponse}

theorem map_key_deliver (t : Timeline Place) (time : Wait Place → Nat) (waits : List (Wait Place)) :
    (waits.map fun w => t.deliver (time w) w).map (·.key) = waits.map (·.key) := by
  rw [List.map_map]
  rfl

theorem map_key_resume (relay : Relay) (ticket : Ticket) (size : Nat) :
    ((goOnOrder ticket size relay.timeline.resume.2).map (·.key) ++
      relay.timeline.resume.1.readers.map (·.key)).Perm (relay.timeline.readers.map (·.key)) := by
  have woken : ((goOnOrder ticket size relay.timeline.resume.2).map (·.key)).Perm
      (relay.timeline.woken.map (·.key)) :=
    ((goOnOrder_perm ticket size _).map _).trans
      (List.Perm.of_eq (map_key_deliver _ (fun _ => relay.timeline.now) _))
  rw [Timeline.readers, Timeline.readers, List.map_append, List.map_append]
  exact woken.append_right _

theorem map_key_pass (relay : Relay) (millis : Nat) :
    ((gather ((relay.timeline.pass millis).2.mergeSort fun d e => decide (Precedes d e))).map
        (·.key) ++ (relay.timeline.pass millis).1.readers.map (·.key)).Perm
      (relay.timeline.readers.map (·.key)) := by
  let due := relay.timeline.waits.filter fun w => w.deadline ≤ relay.timeline.now + millis
  let staying := relay.timeline.waits.filter fun w => ¬ w.deadline ≤ relay.timeline.now + millis
  -- Those that are told are those that are due, in another order.
  have leaving : ((gather ((relay.timeline.pass millis).2.mergeSort
      fun d e => decide (Precedes d e))).map (·.key)).Perm (due.map (·.key)) :=
    (((gather_perm _).trans (List.mergeSort_perm _ _)).map _).trans
      ((List.Perm.of_eq (map_key_deliver _ (fun w => w.deadline) _)).trans
        ((List.mergeSort_perm due _).map _))
  -- Who is due and who stays are together all that wait.
  have split : (due ++ staying).Perm relay.timeline.waits := by
    have parts := List.filter_append_perm
      (fun w : Wait Place => w.deadline ≤ relay.timeline.now + millis) relay.timeline.waits
    simpa only [due, staying, decide_not] using parts
  refine (leaving.append_right _).trans ?_
  rw [← List.map_append]
  refine List.Perm.map _ ?_
  show (due ++ (relay.timeline.woken ++ staying)).Perm
    (relay.timeline.woken ++ relay.timeline.waits)
  rw [← List.append_assoc]
  refine (List.perm_append_comm.append_right staying).trans ?_
  rw [List.append_assoc]
  exact split.append_left _

theorem Attends.resume (attends : relay.Attends (relay.timeline.readers.map (·.key)))
    (first : Ticket) (size : Nat) :
    (relay.resume first size).1.Attends
      ((relay.resume first size).1.timeline.readers.map (·.key)) := by
  have leaving := (attends.perm (relay.map_key_resume first size)).congr
    { relay with timeline := relay.timeline.resume.1 } rfl
  simp only [Relay.resume, timeline_settleAll]
  exact leaving.settleAll

theorem Tracks.resume (attends : relay.Attends (relay.timeline.readers.map (·.key)))
    (keeps : ∀ d ∈ relay.timeline.resume.2, Tracks.Keeps ticket P d) (first : Ticket) (size : Nat)
    (tracks : relay.Tracks ticket P given) :
    (relay.resume first size).1.Tracks ticket P
      (given ++ responsesTo ticket (relay.resume first size).2) := by
  have leaving := (attends.perm (relay.map_key_resume first size)).congr
    { relay with timeline := relay.timeline.resume.1 } rfl
  exact Tracks.settleAll leaving (fun d member => keeps d ((goOnOrder_perm _ _ _).mem_iff.1 member))
    (tracks.congr _ rfl)

theorem Attends.pass (attends : relay.Attends (relay.timeline.readers.map (·.key)))
    (millis : Nat) :
    (relay.pass millis).1.Attends ((relay.pass millis).1.timeline.readers.map (·.key)) := by
  have leaving := (attends.perm (relay.map_key_pass millis)).congr
    { relay with timeline := (relay.timeline.pass millis).1 } rfl
  simp only [Relay.pass, timeline_settleAll]
  exact leaving.settleAll

theorem Tracks.pass (attends : relay.Attends (relay.timeline.readers.map (·.key))) {millis : Nat}
    (keeps : ∀ d ∈ (relay.timeline.pass millis).2, Tracks.Keeps ticket P d)
    (tracks : relay.Tracks ticket P given) :
    (relay.pass millis).1.Tracks ticket P
      (given ++ responsesTo ticket (relay.pass millis).2) := by
  have leaving := (attends.perm (relay.map_key_pass millis)).congr
    { relay with timeline := (relay.timeline.pass millis).1 } rfl
  exact Tracks.settleAll leaving
    (fun d member => keeps d (List.mem_mergeSort.1 ((gather_perm _).mem_iff.1 member)))
    (tracks.congr _ rfl)

end Leaving

/-! ### Between operations -/

/-- What holds of a relay between operations: its readers are the requests that wait, all
submissions that were answered are gone, no reader is woken, and every deadline lies ahead. -/
structure Steady (relay : Relay) : Prop where
  attends : relay.Attends (relay.timeline.readers.map (·.key))
  unanswered : ∀ f ∈ relay.inFlight, f.response? = none
  woken : relay.timeline.woken = []
  ahead : ∀ w ∈ relay.timeline.waits, relay.timeline.now < w.deadline

theorem steady_start (config : Config) (wording : Wording) : (start config wording).Steady where
  attends :=
    { apart := List.nodup_nil
      distinct := List.nodup_nil
      waits := fun _ =>
        ⟨(fun member => nomatch member), fun ⟨_, inside, _⟩ => nomatch inside⟩ }
  unanswered := fun _ inside => nomatch inside
  woken := rfl
  ahead := fun _ member => nomatch member

/-- No reader of a steady relay is woken, so its `readers` are its `waits`. -/
theorem Steady.readers_eq (steady : relay.Steady) :
    relay.timeline.readers = relay.timeline.waits := by
  rw [Timeline.readers, steady.woken, List.nil_append]

/-- The submission of `entries` when they have just started. -/
def begun (relay : Relay) (ticket : Ticket) (isBatch : Bool) (entries : List Entry) : InFlight :=
  ⟨ticket, (relay.startEntries ticket entries 0).1.timeline.now, isBatch,
    (relay.startEntries ticket entries 0).2⟩

/-- The relay that has started `entries` and put them in flight, before anything has been
answered. -/
def taking (relay : Relay) (ticket : Ticket) (isBatch : Bool) (entries : List Entry) : Relay :=
  { (relay.startEntries ticket entries 0).1 with
    inFlight := relay.inFlight ++ [relay.begun ticket isBatch entries] }

theorem inFlight_startEntries (relay : Relay) (ticket : Ticket) (entries : List Entry) :
    (relay.startEntries ticket entries 0).1.inFlight = relay.inFlight := by
  obtain ⟨timeline, metrics, started⟩ := relay.exists_startEntries_eq ticket entries 0
  rw [started]

/-- A submission of which `finished?` gives `own` is answered in `submit` and not put in flight;
then woken readers go on. -/
theorem submit_of_finished {isBatch : Bool} {entries : List Entry} {own : Finished}
    (given : finished? (relay.taking ticket isBatch entries).timeline.now
      (relay.begun ticket isBatch entries) = some own) :
    relay.submit ticket isBatch entries =
      (((relay.startEntries ticket entries 0).1.resume ticket entries.length).1,
        own :: ((relay.startEntries ticket entries 0).1.resume ticket entries.length).2) := by
  rw [taking, begun] at given
  simp only [submit]
  rw [given]

/-- A submission of which `finished?` gives nothing is put in flight by `submit`; then woken
readers go on. -/
theorem submit_of_unfinished {isBatch : Bool} {entries : List Entry}
    (given : finished? (relay.taking ticket isBatch entries).timeline.now
      (relay.begun ticket isBatch entries) = none) :
    relay.submit ticket isBatch entries =
      (relay.taking ticket isBatch entries).resume ticket entries.length := by
  rw [taking, begun] at given
  simp only [submit]
  rw [given, inFlight_startEntries]
  rfl

/-- `submit` is `taking`, then answering the submission if nothing of it waits, then `resume`. -/
theorem submit_eq (unanswered : ∀ f ∈ relay.inFlight, f.response? = none) (ticket : Ticket)
    (isBatch : Bool) (entries : List Entry) :
    let taken := relay.taking ticket isBatch entries
    let resumed := ({ taken with
      inFlight := taken.inFlight.filter fun f => f.response?.isNone } : Relay).resume ticket
        entries.length
    relay.submit ticket isBatch entries =
      (resumed.1, taken.inFlight.filterMap (finished? taken.timeline.now) ++ resumed.2) := by
  have kept : relay.inFlight.filter (fun f => f.response?.isNone) = relay.inFlight :=
    List.filter_eq_self.2 fun f inside => by rw [unanswered f inside]; rfl
  have silent (time : Nat) : relay.inFlight.filterMap (finished? time) = [] :=
    List.filterMap_eq_nil_iff.2 fun f inside => by rw [finished?, unanswered f inside]; rfl
  intro taken resumed
  have all : taken.inFlight = relay.inFlight ++ [relay.begun ticket isBatch entries] := rfl
  -- The submission is finished with what is answered at once, or stands behind the others.
  cases given : (relay.begun ticket isBatch entries).response? with
  | some response =>
    have own : finished? taken.timeline.now (relay.begun ticket isBatch entries) =
        some ⟨ticket, response, taken.timeline.now, taken.timeline.now⟩ := by
      rw [finished?, given]
      rfl
    have gone : taken.inFlight.filter (fun f => f.response?.isNone) = relay.inFlight := by
      simp [all, kept, given]
    have told : taken.inFlight.filterMap (finished? taken.timeline.now) =
        [⟨ticket, response, taken.timeline.now, taken.timeline.now⟩] := by
      simp [all, silent, own]
    have resumes : ({ taken with inFlight := relay.inFlight } : Relay) =
        (relay.startEntries ticket entries 0).1 := by
      rw [← relay.inFlight_startEntries ticket entries]
      rfl
    simp only [resumed, gone, told, resumes, List.singleton_append]
    exact submit_of_finished own
  | none =>
    have own : finished? taken.timeline.now (relay.begun ticket isBatch entries) = none := by
      rw [finished?, given]
      rfl
    have stays : taken.inFlight.filter (fun f => f.response?.isNone) = taken.inFlight := by
      simp [all, kept, given]
    have told : taken.inFlight.filterMap (finished? taken.timeline.now) = [] := by
      simp [all, silent, own]
    simp only [resumed, stays, told, List.nil_append]
    exact submit_of_unfinished own

theorem timeline_resume (relay : Relay) (ticket : Ticket) (size : Nat) :
    (relay.resume ticket size).1.timeline = relay.timeline.resume.1 :=
  timeline_settleAll _ _

/-- Where no reader is woken, `resume` changes nothing. -/
theorem resume_of_woken_eq_nil (relay : Relay) (nobody : relay.timeline.woken = [])
    (ticket : Ticket) (size : Nat) : relay.resume ticket size = (relay, []) := by
  obtain ⟨config, wording, ⟨registry, now, waits, woken⟩, metrics, inFlight⟩ := relay
  obtain rfl : woken = [] := nobody
  have order : goOnOrder ticket size [] = [] := (goOnOrder_perm ticket size []).eq_nil
  simp only [resume, Timeline.resume, List.map_nil, order]
  rfl

theorem timeline_pass (relay : Relay) (millis : Nat) :
    (relay.pass millis).1.timeline = (relay.timeline.pass millis).1 :=
  timeline_settleAll _ _

section Submitting

variable {isBatch : Bool} {entries : List Entry} {P : InFlight → Prop}
  {given : List HttpResponse}

/-- After `taking`, the requests that wait in flight are those whose readers are in the
timeline. -/
theorem Steady.attends_taking (steady : relay.Steady)
    (fresh : ∀ f ∈ relay.inFlight, f.ticket ≠ ticket) (isBatch : Bool) (entries : List Entry) :
    (relay.taking ticket isBatch entries).Attends
      ((relay.taking ticket isBatch entries).timeline.readers.map (·.key)) := by
  have started := relay.starts_startEntries ticket entries 0
  have places (key : Place) : key ∈ waitingPlaces ticket 0 (relay.startEntries ticket entries 0).2 ↔
      key.1 = ticket ∧
        ∃ id, (relay.begun ticket isBatch entries).entries[key.2]? = some (.waiting id) := by
    rw [mem_waitingPlaces]
    constructor
    · rintro ⟨index, id, rfl, found⟩
      exact ⟨rfl, id, by rwa [Nat.zero_add]⟩
    · rintro ⟨rfl, id, found⟩
      exact ⟨key.2, id, by rw [Nat.zero_add], found⟩
  exact ((steady.attends.add fresh (nodup_waitingPlaces _ _ _) places).perm started.readers).congr
    _ rfl

theorem Steady.submit (steady : relay.Steady) (fresh : ∀ f ∈ relay.inFlight, f.ticket ≠ ticket)
    (isBatch : Bool) (entries : List Entry) : (relay.submit ticket isBatch entries).1.Steady := by
  have taken := steady.attends_taking fresh isBatch entries
  rw [submit_eq steady.unanswered]
  -- What has an answer has left, so each that is still there waits for one.
  refine ⟨taken.retire.resume ticket entries.length, ?_, ?_, ?_⟩
  · refine unanswered_settleAll _ fun f inside => ?_
    simpa using (List.mem_filter.1 inside).2
  · rw [timeline_resume]
    rfl
  · rw [timeline_resume]
    intro w member
    have started := relay.starts_startEntries ticket entries 0
    show (relay.startEntries ticket entries 0).1.timeline.now < w.deadline
    rw [started.now]
    rcases started.waits w member with old | ⟨_, due, long⟩
    · exact steady.ahead w old
    · rw [due]
      exact Nat.lt_add_of_pos_right long

/-- A relay that `Tracks` the submission of `ticket` after `taking` another one tracks it after
`submit`, with the responses given in between. -/
theorem Tracks.submit (steady : relay.Steady) {first : Ticket}
    (fresh : ∀ f ∈ relay.inFlight, f.ticket ≠ first)
    (keeps : ∀ d ∈ (relay.taking first isBatch entries).timeline.resume.2,
      Tracks.Keeps ticket P d)
    (tracks : (relay.taking first isBatch entries).Tracks ticket P given) :
    (relay.submit first isBatch entries).1.Tracks ticket P
      (given ++ responsesTo ticket (relay.submit first isBatch entries).2) := by
  have taken := steady.attends_taking fresh isBatch entries
  rw [submit_eq steady.unanswered, responsesTo_append, ← List.append_assoc]
  exact (tracks.retire taken.apart _).resume taken.retire keeps first entries.length

/-- `taking` a submission under another ticket `first` does not change what is tracked under
`ticket`. -/
theorem Tracks.taking (tracks : relay.Tracks ticket P given) {first : Ticket}
    (apart : first ≠ ticket) (isBatch : Bool) (entries : List Entry) :
    (relay.taking first isBatch entries).Tracks ticket P given := by
  cases tracks with
  | working inside named holds => exact .working (List.mem_append_left _ inside) named holds
  | answered gone holds answer =>
    refine .answered (fun g inside => ?_) holds answer
    rcases List.mem_append.1 inside with old | new
    · exact gone g old
    · rw [List.mem_singleton.1 new]
      exact apart

end Submitting

theorem Steady.pass (steady : relay.Steady) (millis : Nat) : (relay.pass millis).1.Steady := by
  refine ⟨steady.attends.pass millis, unanswered_settleAll _ steady.unanswered, ?_, ?_⟩
  · rw [timeline_pass]
    exact steady.woken
  · rw [timeline_pass]
    intro w member
    have due := (List.mem_filter.1 member).2
    simpa using due

theorem Steady.abort (steady : relay.Steady) (ticket : Ticket) : (relay.abort ticket).Steady := by
  have readers : (relay.abort ticket).timeline.readers.map (·.key) =
      (relay.timeline.readers.map (·.key)).filter fun key => !(key.1 == ticket) := by
    have kept : (relay.abort ticket).timeline.readers =
        relay.timeline.readers.filter fun w => !(w.key.1 == ticket) :=
      (List.filter_append _ _).symm
    rw [List.filter_map, kept]
    rfl
  refine ⟨readers ▸ steady.attends.abort ticket, ?_, ?_, ?_⟩
  · intro f inside
    exact steady.unanswered f (List.mem_filter.1 inside).1
  · show relay.timeline.woken.filter _ = []
    rw [steady.woken]
    rfl
  · intro w member
    exact steady.ahead w (List.mem_filter.1 member).1

theorem Steady.operate (steady : relay.Steady) {operation : Operation}
    (fresh : ∀ ticket request, operation = .begin ticket request →
      ∀ f ∈ relay.inFlight, f.ticket ≠ ticket) : (relay.operate operation).1.Steady := by
  cases operation with
  | begin ticket request =>
    show (relay.begin ticket request).1.Steady
    unfold Relay.begin
    dsimp only
    split
    · exact steady
    · exact steady.submit (fresh _ _ rfl) _ _
    · exact steady.submit (fresh _ _ rfl) _ _
  | abort ticket => exact steady.abort ticket
  | pass millis => exact steady.pass millis

theorem Steady.operateAll (steady : relay.Steady) {operations : List Operation}
    (admits : relay.Admits operations) : (relay.operateAll operations).1.Steady := by
  induction operations generalizing relay with
  | nil => exact steady
  | cons operation operations ih => exact ih (steady.operate admits.1) admits.2

theorem config_submit (relay : Relay) (ticket : Ticket) (isBatch : Bool) (entries : List Entry) :
    (relay.submit ticket isBatch entries).1.config = relay.config := by
  obtain ⟨timeline, metrics, started⟩ := relay.exists_startEntries_eq ticket entries 0
  simp only [Relay.submit, Relay.resume]
  split <;> simp only [config_settleAll, started]

theorem config_operate (relay : Relay) (operation : Operation) :
    (relay.operate operation).1.config = relay.config := by
  cases operation with
  | begin ticket request =>
    show (relay.begin ticket request).1.config = relay.config
    unfold Relay.begin
    dsimp only
    split
    · rfl
    · exact relay.config_submit ticket false _
    · exact relay.config_submit ticket true _
  | abort ticket => rfl
  | pass millis => exact config_settleAll _ _

theorem config_operateAll (relay : Relay) (operations : List Operation) :
    (relay.operateAll operations).1.config = relay.config := by
  induction operations generalizing relay with
  | nil => rfl
  | cons operation operations ih => exact (ih _).trans (relay.config_operate operation)

/-! ### A submission among others -/

/-- The ticket that an operation is about; `.pass` has none. -/
def Operation.ticket? : Operation → Option Ticket
  | .begin ticket _ | .abort ticket => some ticket
  | .pass _ => none

/-- The milliseconds that pass in the course of operations. -/
def elapsed : List Operation → Nat
  | [] => 0
  | .pass millis :: operations => millis + elapsed operations
  | _ :: operations => elapsed operations

/-- What readers are told in the course of an operation. -/
def deliveries (relay : Relay) : Operation → List (Delivery Place)
  | .begin ticket request =>
    match relay.submission request with
    | .answered _ => []
    | .single entry => (relay.taking ticket false [entry]).timeline.resume.2
    | .batch entries => (relay.taking ticket true entries).timeline.resume.2
  | .abort _ => []
  | .pass millis => (relay.timeline.pass millis).2

/-- No reader of `ticket` has a deadline after `limit`. -/
def WaitsUntil (relay : Relay) (ticket : Ticket) (limit : Nat) : Prop :=
  ∀ w ∈ relay.timeline.waits, w.key.1 = ticket → w.deadline ≤ limit

section Others

variable {operation : Operation} {operations : List Operation} {limit : Nat} {P : InFlight → Prop}
  {given : List HttpResponse}

theorem timeline_submit (steady : relay.Steady) (ticket : Ticket) (isBatch : Bool)
    (entries : List Entry) : (relay.submit ticket isBatch entries).1.timeline =
      (relay.startEntries ticket entries 0).1.timeline.resume.1 := by
  rw [submit_eq steady.unanswered, timeline_resume]
  rfl

theorem now_submit (steady : relay.Steady) (ticket : Ticket) (isBatch : Bool)
    (entries : List Entry) :
    (relay.submit ticket isBatch entries).1.timeline.now = relay.timeline.now := by
  rw [timeline_submit steady]
  exact (relay.starts_startEntries ticket entries 0).now

/-- The readers of a submission wait no longer than `receiveTimeout.wait` from when it comes in. -/
theorem waitsUntil_submit (steady : relay.Steady)
    (fresh : ∀ f ∈ relay.inFlight, f.ticket ≠ ticket) (isBatch : Bool) (entries : List Entry) :
    (relay.submit ticket isBatch entries).1.WaitsUntil ticket
      (relay.timeline.now + relay.config.receiveTimeout.wait) := by
  rw [WaitsUntil, timeline_submit steady]
  intro w member named
  rcases (relay.starts_startEntries ticket entries 0).waits w member with old | ⟨_, due, _⟩
  · -- A reader from before would belong to a submission with this ticket.
    have key := List.mem_map_of_mem (f := fun w : Wait Place => w.key)
      (List.mem_append_right relay.timeline.woken old)
    obtain ⟨f, inside, same, _⟩ := (steady.attends.waits w.key).1 key
    exact absurd (same.trans named) (fresh f inside)
  · exact Nat.le_of_eq due

theorem WaitsUntil.submit (steady : relay.Steady) (bounded : relay.WaitsUntil ticket limit)
    {first : Ticket} (apart : first ≠ ticket) (isBatch : Bool) (entries : List Entry) :
    (relay.submit first isBatch entries).1.WaitsUntil ticket limit := by
  rw [WaitsUntil, timeline_submit steady]
  intro w member named
  rcases (relay.starts_startEntries first entries 0).waits w member with old | ⟨own, _⟩
  · exact bounded w old named
  · obtain ⟨index, id, key, _⟩ := mem_waitingPlaces.1 own
    rw [key] at named
    exact absurd named apart

theorem Tracks.operate (steady : relay.Steady) (tracks : relay.Tracks ticket P given)
    (keeps : ∀ d ∈ relay.deliveries operation, Tracks.Keeps ticket P d)
    (fresh : ∀ ticket request, operation = .begin ticket request →
      ∀ f ∈ relay.inFlight, f.ticket ≠ ticket)
    (other : operation.ticket? ≠ some ticket) :
    (relay.operate operation).1.Tracks ticket P
      (given ++ responsesTo ticket (relay.operate operation).2) := by
  cases operation with
  | begin first request =>
    -- The tracked submission is not the one that begins or leaves.
    have apart : first ≠ ticket := fun same => other (congrArg some same)
    show (relay.begin first request).1.Tracks ticket P
      (given ++ responsesTo ticket (relay.begin first request).2)
    cases asks : relay.submission request with
    | answered response => simpa [Relay.begin, asks, responsesTo, apart] using tracks
    | single entry =>
      simp only [deliveries, asks] at keeps
      simp only [Relay.begin, asks]
      exact (tracks.taking apart _ _).submit steady (fresh _ _ rfl) keeps
    | batch entries =>
      simp only [deliveries, asks] at keeps
      simp only [Relay.begin, asks]
      exact (tracks.taking apart _ _).submit steady (fresh _ _ rfl) keeps
  | abort first =>
    have apart : ticket ≠ first := fun same => other (congrArg some same.symm)
    show (relay.abort first).Tracks ticket P (given ++ [])
    rw [List.append_nil]
    cases tracks with
    | working inside named holds =>
      exact .working (List.mem_filter.2 ⟨inside, by simp [named, apart]⟩) named holds
    | answered gone holds answer =>
      exact .answered (fun g inside => gone g (List.mem_filter.1 inside).1) holds answer
  | pass millis => exact tracks.pass steady.attends keeps

theorem WaitsUntil.operate (steady : relay.Steady) (bounded : relay.WaitsUntil ticket limit)
    (other : operation.ticket? ≠ some ticket) :
    (relay.operate operation).1.WaitsUntil ticket limit := by
  cases operation with
  | begin first request =>
    have apart : first ≠ ticket := fun same => other (congrArg some same)
    show (relay.begin first request).1.WaitsUntil ticket limit
    unfold Relay.begin
    dsimp only
    split
    · exact bounded
    · exact bounded.submit steady apart _ _
    · exact bounded.submit steady apart _ _
  | abort first => exact fun w member => bounded w (List.mem_filter.1 member).1
  | pass millis =>
    show (relay.pass millis).1.WaitsUntil ticket limit
    rw [WaitsUntil, timeline_pass]
    exact fun w member => bounded w (List.mem_filter.1 member).1

theorem now_operate (steady : relay.Steady) (operation : Operation) :
    (relay.operate operation).1.timeline.now = relay.timeline.now + elapsed [operation] := by
  cases operation with
  | begin ticket request =>
    show (relay.begin ticket request).1.timeline.now = _
    unfold Relay.begin
    dsimp only
    split
    · rfl
    · exact now_submit steady _ _ _
    · exact now_submit steady _ _ _
  | abort ticket => rfl
  | pass millis =>
    show (relay.pass millis).1.timeline.now = _
    rw [timeline_pass]
    rfl

/-- If each delivery of `operations` that do not use `ticket` keeps `P`, the submission of `ticket`
stays tracked: it satisfies `P` until it is answered, and it is answered at most once. -/
theorem Tracks.operateAll (steady : relay.Steady) (tracks : relay.Tracks ticket P given)
    (keeps : ∀ before operation after, operations = before ++ operation :: after →
      ∀ d ∈ (relay.operateAll before).1.deliveries operation, Tracks.Keeps ticket P d)
    (admits : relay.Admits operations)
    (others : ∀ operation ∈ operations, operation.ticket? ≠ some ticket) :
    (relay.operateAll operations).1.Tracks ticket P
      (given ++ responsesTo ticket (relay.operateAll operations).2) := by
  induction operations generalizing relay given with
  | nil => simpa [Relay.operateAll, responsesTo] using tracks
  | cons operation operations ih =>
    have rest := ih (steady.operate admits.1)
      (tracks.operate steady (keeps [] operation operations rfl) admits.1
        (others operation List.mem_cons_self))
      (fun before next after split => keeps (operation :: before) next after (by rw [split]; rfl))
      admits.2 fun later member => others later (List.mem_cons_of_mem operation member)
    rw [List.append_assoc, ← responsesTo_append] at rest
    exact rest

theorem WaitsUntil.operateAll (steady : relay.Steady) (bounded : relay.WaitsUntil ticket limit)
    (admits : relay.Admits operations)
    (others : ∀ operation ∈ operations, operation.ticket? ≠ some ticket) :
    (relay.operateAll operations).1.WaitsUntil ticket limit := by
  induction operations generalizing relay with
  | nil => exact bounded
  | cons operation operations ih =>
    exact ih (steady.operate admits.1)
      (bounded.operate steady (others operation List.mem_cons_self))
      admits.2 fun later member => others later (List.mem_cons_of_mem operation member)

theorem now_operateAll (steady : relay.Steady) (admits : relay.Admits operations) :
    (relay.operateAll operations).1.timeline.now = relay.timeline.now + elapsed operations := by
  induction operations generalizing relay with
  | nil => rfl
  | cons operation operations ih =>
    refine (ih (steady.operate admits.1) admits.2).trans ?_
    rw [now_operate steady, Nat.add_assoc]
    cases operation <;> simp [elapsed]

/-- A tracked submission whose readers wait until `limit` at most has been answered once `limit`
has come. -/
theorem Tracks.exists_response (steady : relay.Steady) (tracks : relay.Tracks ticket P given)
    (bounded : relay.WaitsUntil ticket limit) (late : limit ≤ relay.timeline.now) :
    ∃ response, given = [response] := by
  cases tracks with
  | @working f inside named holds =>
    -- What has not been answered has a reader that still waits.
    obtain ⟨index, id, found⟩ := InFlight.response?_eq_none_iff.1 (steady.unanswered f inside)
    have waits : (ticket, index) ∈ relay.timeline.readers.map (·.key) :=
      (steady.attends.waits _).2 ⟨f, inside, named, id, found⟩
    obtain ⟨w, member, key⟩ := List.mem_map.1 waits
    rw [Timeline.readers, steady.woken, List.nil_append] at member
    have due := bounded w member (congrArg Prod.fst key)
    exact absurd (steady.ahead w member) (Nat.not_lt.2 (Nat.le_trans due late))
  | answered gone holds answer => exact ⟨_, rfl⟩

end Others

end Relay

end StateChannel
