import Mathlib.Data.List.Basic
import StateChannel.Proofs.Relay.Steps
import StateChannel.Relay.Board

/-!
# A timeline is its board

Whatever happens to a timeline, its board tells the same, with the same answers. So what holds of
boards holds of channels in time, wherever these are kept. A board from which some readers have been
taken away goes on for all others as if they were still there.

## Main definitions

* `Timeline.Placed`: every reader has the place of a channel

## Main results

* `Timeline.Placed.step`, `Timeline.Placed.run`: boards keep pace with their timelines
* `Board.drop_append`, `Board.drop_receive`, `Board.drop_resumeWhere`, `Board.drop_pass`,
  `Board.drop_step`: readers that are not there are missed by nobody
* `List.filter_mergeSort`: what is left out before a list is sorted could as well be left out later
-/

namespace List

/-- Filtering by `p` and sorting by a total preorder `le` commute. -/
theorem filter_mergeSort {α : Type} {le : α → α → Bool}
    (trans : ∀ a b c, le a b = true → le b c = true → le a c = true)
    (total : ∀ a b, (le a b || le b a) = true) (p : α → Bool) (items : List α) :
    (items.mergeSort le).filter p = (items.filter p).mergeSort le := by
  induction items with
  | nil => simp
  | cons a items ih =>
    -- The sort puts its first item before all others that are not smaller.
    obtain ⟨before, after, sorted, rest, smaller⟩ := mergeSort_cons trans total a items
    rw [rest, filter_append] at ih
    rw [sorted, filter_append, filter_cons, filter_cons]
    by_cases kept : p a = true
    · rw [if_pos kept, if_pos kept]
      obtain ⟨first, last, sorted', rest', smaller'⟩ :=
        mergeSort_cons trans total a (items.filter p)
      have greater : ∀ b ∈ after.filter p, le a b = true := by
        have order := pairwise_mergeSort trans total (a :: items)
        rw [sorted] at order
        intro b member
        exact (pairwise_cons.1 (pairwise_append.1 order).2.1).1 b (mem_filter.1 member).1
      have greater' : ∀ b ∈ last, le a b = true := by
        have order := pairwise_mergeSort trans total (a :: items.filter p)
        rw [sorted'] at order
        exact (pairwise_cons.1 (pairwise_append.1 order).2.1).1
      -- Both are cut where the items cease to be smaller.
      have cut {l r : List α} (small : ∀ b ∈ l, (!le a b) = true)
          (great : ∀ b ∈ r, le a b = true) :
          (l ++ r).filter (fun b => !le a b) = l ∧ (l ++ r).filter (le a) = r := by
        rw [filter_append, filter_append, filter_eq_self.2 small, filter_eq_self.2 great,
          filter_eq_nil_iff.2 fun b member => by simp [great b member],
          filter_eq_nil_iff.2 fun b member => by simpa using small b member]
        simp
      obtain ⟨left, right⟩ := cut (fun b member => smaller b (mem_filter.1 member).1) greater
      obtain ⟨left', right'⟩ := cut smaller' greater'
      rw [rest'] at ih
      have first_eq : before.filter p = first := by rw [← left, ih, left']
      have last_eq : after.filter p = last := by rw [← right, ih, right']
      rw [sorted', first_eq, last_eq]
    · rw [if_neg kept, if_neg kept]
      exact ih

end List

namespace StateChannel

/-! ### Places and names -/

namespace Registry

theorem nameAt_of_find? {r : Registry} {name : String} {id : LogId}
    (found : r.find? name = some id) : r.nameAt id = name := by
  obtain ⟨inside, same, _⟩ := List.findIdx?_eq_some_iff_getElem.1 found
  simp only [nameAt, List.getElem?_eq_getElem inside, Option.map_some, Option.getD_some]
  exact eq_of_beq same

/-- The reader of `w` waits at the place of the channel that `r` has there. -/
def Places {κ : Type} (r : Registry) (w : Wait κ) : Prop := r.find? (r.nameAt w.id) = some w.id

variable {κ : Type} {r later : Registry} {w : Wait κ}

/-- If `later` keeps the places of `r`, a reader that `Places` in `r` does so in `later` and is the
same standing. -/
theorem Places.mono (places : r.Places w)
    (kept : ∀ {name id}, r.find? name = some id → later.find? name = some id) :
    later.Places w ∧ later.standing w = r.standing w := by
  have found := kept places
  have same : later.nameAt w.id = r.nameAt w.id := nameAt_of_find? found
  exact ⟨by rw [Places, same]; exact found, by rw [standing, standing, same]⟩

/-- For a reader that `Places`, its place is that of `name` exactly when `name` is the name of its
channel. -/
theorem Places.id_eq_iff (places : r.Places w) {name : String} {id : LogId}
    (found : r.find? name = some id) : w.id = id ↔ r.nameAt w.id = name := by
  constructor
  · intro same
    exact eq_of_find? places (same ▸ found)
  · intro same
    rw [Places, same, found] at places
    exact (Option.some.inj places).symm

theorem Places.log_eq (places : r.Places w) : r.log w.id = r.logOf (r.nameAt w.id) :=
  (logOf_of_find? places).symm

end Registry

namespace Timeline

/-- Every reader of `t`, waiting or woken, `Places`. -/
structure Placed {κ : Type} (t : Timeline κ) : Prop where
  waits : ∀ w ∈ t.waits, t.registry.Places w
  woken : ∀ w ∈ t.woken, t.registry.Places w

theorem placed_empty {κ : Type} : (empty : Timeline κ).Placed where
  waits _ member := nomatch member
  woken _ member := nomatch member

section Operations

variable {κ : Type} {t : Timeline κ}

/-- Entering `channel` keeps `Placed` and changes neither a reader nor a log. -/
theorem Placed.enter (placed : t.Placed) (channel : String) :
    ({ t with registry := (t.registry.enter channel).1 } : Timeline κ).Placed ∧
      ({ t with registry := (t.registry.enter channel).1 } : Timeline κ).board = t.board := by
  have kept {name : String} {id : LogId} (found : t.registry.find? name = some id) :
      (t.registry.enter channel).1.find? name = some id :=
    Registry.find?_enter_of_find? found channel
  refine ⟨⟨fun w member => ((placed.waits w member).mono kept).1,
    fun w member => ((placed.woken w member).mono kept).1⟩, ?_⟩
  have waits := List.map_congr_left fun w member => ((placed.waits w member).mono kept).2
  have woken := List.map_congr_left fun w member => ((placed.woken w member).mono kept).2
  have logs : (t.registry.enter channel).1.logOf = t.registry.logOf :=
    funext fun name => Registry.logOf_enter t.registry channel name
  simp only [board, waits, woken, logs]

theorem deliver_eq {w : Wait κ} (places : t.registry.Places w) (time : Nat) :
    t.deliver time w = t.board.deliver time (t.registry.standing w) := by
  rw [Timeline.deliver, places.log_eq]
  rfl

theorem Placed.append (placed : t.Placed) (channel : String) (message : Json) :
    (t.append channel message).1.Placed ∧
      (t.append channel message).1.board = (t.board.append channel message).1 ∧
      (t.append channel message).2 = (t.board.append channel message).2 := by
  obtain ⟨entered, same⟩ := placed.enter channel
  have place := Registry.find?_enter t.registry channel
  have kept {name : String} {id : LogId}
      (found : (t.registry.enter channel).1.find? name = some id) :
      (t.append channel message).1.registry.find? name = some id :=
    (Registry.find?_update _ _ _ _).trans found
  -- A reader waits on the channel exactly when it has the place of the channel.
  have here {w : Wait κ} (member : w ∈ t.waits) : (w.id == (t.registry.enter channel).2) =
      decide (((t.registry.enter channel).1.standing w).channel = channel) :=
    Bool.eq_iff_iff.2 (beq_iff_eq.trans
      (((entered.waits w member).id_eq_iff place).trans decide_eq_true_iff.symm))
  have names {w : Wait κ} (places : (t.registry.enter channel).1.Places w) :
      (t.append channel message).1.registry.standing w =
        (t.registry.enter channel).1.standing w := (places.mono kept).2
  refine ⟨⟨fun w member => ?_, fun w member => ?_⟩, ?_, append_snd t channel message⟩
  · exact ((entered.waits w (List.mem_filter.1 member).1).mono kept).1
  · rcases mem_woken_append.1 member with old | ⟨old, _⟩
    · exact ((entered.woken w old).mono kept).1
    · exact ((entered.waits w old).mono kept).1
  · rw [← same]
    have logs : (t.append channel message).1.registry.logOf = fun name =>
        if name = channel then ((t.registry.enter channel).1.logOf name).append message
        else (t.registry.enter channel).1.logOf name := by
      funext name
      rw [logOf_append, Registry.logOf_enter]
    have parts (p : Wait κ → Bool) (q : Standing κ → Bool)
        (agree : ∀ w ∈ t.waits, p w = q ((t.registry.enter channel).1.standing w)) :
        (t.waits.filter p).map (t.append channel message).1.registry.standing =
          (t.waits.map (t.registry.enter channel).1.standing).filter q := by
      rw [List.filter_map, List.filter_congr (q := q ∘ _) agree]
      exact List.map_congr_left fun w member => names (entered.waits w (List.mem_filter.1 member).1)
    have waits := parts (fun w => w.id != (t.registry.enter channel).2)
      (fun w => w.channel ≠ channel) fun w member => by rw [bne, here member, decide_not]
    have woken := parts (fun w => w.id == (t.registry.enter channel).2)
      (fun w => w.channel = channel) fun w member => here member
    have old : t.woken.map (t.append channel message).1.registry.standing =
        t.woken.map (t.registry.enter channel).1.standing :=
      List.map_congr_left fun w member => names (entered.woken w member)
    have moved : (t.append channel message).1.woken =
        t.woken ++ t.waits.filter fun w => w.id == (t.registry.enter channel).2 := rfl
    rw [board, logs, moved, List.map_append, old, woken]
    exact congrArg (fun readers => Board.mk _ _ readers _) waits

theorem Placed.receive (placed : t.Placed) (key : κ) (channel : String) (start timeout : Nat) :
    (t.receive key channel start timeout).1.Placed ∧
      (t.receive key channel start timeout).1.board =
        (t.board.receive key channel start timeout).1 ∧
      (t.receive key channel start timeout).2 = (t.board.receive key channel start timeout).2 := by
  obtain ⟨entered, same⟩ := placed.enter channel
  -- Both look at the same log, so both tell the reader at once or let it wait.
  by_cases told : start < (t.registry.logOf channel).seq ∨ timeout = 0
  · have given : t.board.receive key channel start timeout = (t.board, some _) := if_pos told
    rw [receive_of_told told, given]
    exact ⟨entered, same, rfl⟩
  · have waiting : t.board.receive key channel start timeout = (_, none) := if_neg told
    have place := Registry.find?_enter t.registry channel
    rw [not_or, Nat.not_lt] at told
    rw [receive_of_waits told.1 (Nat.pos_of_ne_zero told.2), waiting]
    have named := Registry.nameAt_of_find? place
    refine ⟨⟨fun w member => ?_, entered.woken⟩, ?_, rfl⟩
    · rcases List.mem_append.1 member with old | new
      · exact entered.waits w old
      · rw [List.mem_singleton.1 new, Registry.Places, named]
        exact place
    · rw [← same]
      have standing : (t.registry.enter channel).1.standing
          ⟨key, (t.registry.enter channel).2, (t.registry.logOf channel).subscribe start,
            t.now + timeout⟩ =
          ⟨key, channel, ((t.registry.enter channel).1.logOf channel).subscribe start,
            t.now + timeout⟩ := by
        rw [Registry.standing, named, Registry.logOf_enter]
      simp only [board, List.map_append, List.map_singleton, standing]

theorem Placed.drop (placed : t.Placed) (isDropped : κ → Bool) :
    (t.drop isDropped).Placed ∧ (t.drop isDropped).board = t.board.drop isDropped := by
  refine ⟨⟨fun w member => placed.waits w (List.mem_filter.1 member).1,
    fun w member => placed.woken w (List.mem_filter.1 member).1⟩, ?_⟩
  simp only [board, Timeline.drop, Board.drop, List.filter_map]
  rfl

theorem Placed.resume (placed : t.Placed) :
    t.resume.1.Placed ∧ t.resume.1.board = (t.board.resumeWhere fun _ => true).1 ∧
      t.resume.2 = (t.board.resumeWhere fun _ => true).2 := by
  refine ⟨⟨placed.waits, fun _ member => nomatch member⟩, ?_, ?_⟩
  · simp [board, Timeline.resume, Board.resumeWhere]
  · simp only [Timeline.resume, Board.resumeWhere, List.filter_true, board, List.map_map]
    exact List.map_congr_left fun w member => deliver_eq (placed.woken w member) _

theorem Placed.resumeOf [DecidableEq κ] (placed : t.Placed) (key : κ) :
    (t.resumeOf key).1.Placed ∧
      (t.resumeOf key).1.board = (t.board.resumeWhere fun k => k = key).1 ∧
      (t.resumeOf key).2 = (t.board.resumeWhere fun k => k = key).2 := by
  refine ⟨⟨placed.waits, fun w member => placed.woken w (List.mem_filter.1 member).1⟩, ?_, ?_⟩
  · simp only [board, Timeline.resumeOf, Board.resumeWhere, List.filter_map, decide_not]
    rfl
  · simp only [Timeline.resumeOf, Board.resumeWhere, board, List.filter_map, List.map_map]
    exact List.map_congr_left fun w member =>
      deliver_eq (placed.woken w (List.mem_filter.1 member).1) _

theorem Placed.pass (placed : t.Placed) (millis : Nat) :
    (t.pass millis).1.Placed ∧ (t.pass millis).1.board = (t.board.pass millis).1 ∧
      (t.pass millis).2 = (t.board.pass millis).2 := by
  refine ⟨⟨fun w member => placed.waits w (List.mem_filter.1 member).1, placed.woken⟩, ?_, ?_⟩
  · simp only [board, Timeline.pass, Board.pass, List.filter_map]
    rfl
  · simp only [Timeline.pass, Board.pass, board, List.filter_map]
    rw [← List.map_mergeSort (r := fun v w => decide (v.deadline ≤ w.deadline))
      (fun _ _ _ _ => rfl), List.map_map]
    exact List.map_congr_left fun w member =>
      deliver_eq (placed.waits w (List.mem_filter.1 (List.mem_mergeSort.1 member)).1) _

end Operations

section Runs

variable {κ : Type} [DecidableEq κ] {t : Timeline (String × κ)}

theorem Placed.step (placed : t.Placed) (event : Event κ) :
    (t.step event).1.Placed ∧ (t.step event).1.board = (t.board.step event).1 ∧
      (t.step event).2 = (t.board.step event).2 := by
  cases event with
  | append channel message =>
    obtain ⟨after, same, answer⟩ := placed.append channel message
    exact ⟨after, same, by simp only [Timeline.step, Board.step, answer]⟩
  | seq channel =>
    obtain ⟨after, same⟩ := placed.enter channel
    refine ⟨after, same, ?_⟩
    simp only [Timeline.step, Timeline.seq, Registry.log_enter]
    rfl
  | receive channel key start timeout =>
    obtain ⟨after, same, told⟩ := placed.receive (channel, key) channel start timeout
    exact ⟨after, same, by simp only [Timeline.step, Board.step, told]⟩
  | drop channel key =>
    obtain ⟨after, same⟩ := placed.drop fun k => k = (channel, key)
    exact ⟨after, same, rfl⟩
  | resume channel key =>
    obtain ⟨after, same, told⟩ := placed.resumeOf (channel, key)
    exact ⟨after, same, by simp only [Timeline.step, Board.step, told]⟩
  | pass millis =>
    -- Readers that have been woken go on before any time passes.
    obtain ⟨between, looked, woken⟩ := placed.resume
    obtain ⟨after, same, due⟩ := between.pass millis
    rw [looked] at same due
    exact ⟨after, same, by simp only [Timeline.step, Board.step, woken, due]⟩

/-- A run of `events` on a timeline that is `Placed` gives the board and the replies of the run on
its board. -/
theorem Placed.run (placed : t.Placed) (events : List (Event κ)) :
    (t.run events).1.Placed ∧ (t.run events).1.board = (t.board.run events).1 ∧
      (t.run events).2 = (t.board.run events).2 := by
  induction events generalizing t with
  | nil => exact ⟨placed, rfl, rfl⟩
  | cons event events ih =>
    obtain ⟨between, same, reply⟩ := placed.step event
    obtain ⟨after, all, record⟩ := ih between
    rw [same] at all record
    exact ⟨after, all, by simp only [Timeline.run, Board.run, reply, record]⟩

end Runs

end Timeline

/-! ### Readers that are not there -/

namespace Board

variable {κ : Type} (b : Board κ) (p : κ → Bool)

theorem drop_append (channel : String) (message : Json) :
    (b.append channel message).1.drop p = ((b.drop p).append channel message).1 := by
  simp only [append, drop, List.filter_append, List.filter_filter, Bool.and_comm]

theorem drop_receive {key : κ} (kept : p key = false) (channel : String) (start timeout : Nat) :
    (b.receive key channel start timeout).1.drop p =
        ((b.drop p).receive key channel start timeout).1 ∧
      (b.receive key channel start timeout).2 =
        ((b.drop p).receive key channel start timeout).2 := by
  by_cases told : start < (b.log channel).seq ∨ timeout = 0
  · have told' : start < ((b.drop p).log channel).seq ∨ timeout = 0 := told
    rw [receive, receive, if_pos told, if_pos told']
    exact ⟨rfl, rfl⟩
  · have waits' : ¬(start < ((b.drop p).log channel).seq ∨ timeout = 0) := told
    rw [receive, receive, if_neg told, if_neg waits']
    simp [drop, kept]

/-- A `.receive` by a `key` that `p` drops leaves no trace after the drop. -/
theorem drop_receive_self (key : κ) (gone : p key = true) (channel : String)
    (start timeout : Nat) :
    (b.receive key channel start timeout).1.drop p = b.drop p := by
  by_cases told : start < (b.log channel).seq ∨ timeout = 0
  · rw [receive, if_pos told]
  · rw [receive, if_neg told]
    simp [drop, gone]

theorem drop_drop (q : κ → Bool) : (b.drop q).drop p = (b.drop p).drop q := by
  simp only [drop, List.filter_filter, Bool.and_comm]

theorem filter_map_deliver (time : Standing κ → Nat) (readers : List (Standing κ)) :
    ((readers.map fun w => b.deliver (time w) w).filter fun d => !p d.key) =
      (readers.filter fun w => !p w.key).map fun w => (b.drop p).deliver (time w) w := by
  rw [List.filter_map]
  rfl

theorem drop_resumeWhere (goes : κ → Bool) :
    (b.resumeWhere goes).1.drop p = ((b.drop p).resumeWhere goes).1 ∧
      ((b.resumeWhere goes).2.filter fun d => !p d.key) = ((b.drop p).resumeWhere goes).2 := by
  constructor
  · simp only [resumeWhere, drop, List.filter_filter, Bool.and_comm]
  · rw [resumeWhere, b.filter_map_deliver p fun _ => b.now]
    simp only [resumeWhere, drop, List.filter_filter, Bool.and_comm]

/-- Filtering readers by `keep` and sorting them by deadline commute. -/
theorem filter_sort (keep : Standing κ → Bool) (readers : List (Standing κ)) :
    (readers.mergeSort fun v w => v.deadline ≤ w.deadline).filter keep =
      (readers.filter keep).mergeSort fun v w => v.deadline ≤ w.deadline := by
  refine List.filter_mergeSort ?_ ?_ keep readers
  · intro u v w first second
    simp only [decide_eq_true_eq] at first second ⊢
    exact Nat.le_trans first second
  · intro v w
    simpa using Nat.le_total v.deadline w.deadline

theorem drop_pass (millis : Nat) :
    (b.pass millis).1.drop p = ((b.drop p).pass millis).1 ∧
      ((b.pass millis).2.filter fun d => !p d.key) = ((b.drop p).pass millis).2 := by
  constructor
  · simp only [pass, drop, List.filter_filter, Bool.and_comm]
    rfl
  · rw [pass, b.filter_map_deliver p fun w => w.deadline, filter_sort, List.filter_filter]
    simp only [pass, drop, List.filter_filter, Bool.and_comm]
    rfl

end Board

/-! ### Events and runs -/

namespace Board

variable {κ : Type} [DecidableEq κ]

/-- An `event` does to `b.drop p` what it does to `b` and then dropped, unless it is a `.receive`
of a reader that `p` drops; the others are told the same. -/
theorem drop_step (b : Board (String × κ)) (p : String × κ → Bool) {event : Timeline.Event κ}
    (shown : ∀ channel key start timeout,
      event = .receive channel key start timeout → p (channel, key) = false) :
    (b.step event).1.drop p = ((b.drop p).step event).1 ∧
      ((b.step event).2.told.filter fun d => !p d.key) = ((b.drop p).step event).2.told := by
  cases event with
  | append channel message => exact ⟨b.drop_append p channel message, rfl⟩
  | seq channel => exact ⟨rfl, rfl⟩
  | receive channel key start timeout =>
    have kept := shown channel key start timeout rfl
    obtain ⟨after, told⟩ := b.drop_receive p kept channel start timeout
    refine ⟨after, ?_⟩
    simp only [Board.step, ← told]
    -- The reader is not among those that are dropped, so it is told at once or waits in both.
    by_cases at_once : start < (b.log channel).seq ∨ timeout = 0
    · simp [receive, at_once, kept]
    · simp [receive, at_once]
  | drop channel key => exact ⟨b.drop_drop p _, rfl⟩
  | resume channel key => exact b.drop_resumeWhere p fun k => k = (channel, key)
  | pass millis =>
    obtain ⟨between, woken⟩ := b.drop_resumeWhere p fun _ => true
    obtain ⟨after, due⟩ := (b.resumeWhere fun _ => true).1.drop_pass p millis
    rw [between] at after due
    exact ⟨after, (List.filter_append _ _).trans (congrArg₂ (· ++ ·) woken due)⟩

/-- A `.receive` of a reader that `p` drops changes nothing for the others. -/
theorem drop_step_of_hidden (b : Board (String × κ)) (p : String × κ → Bool) {channel : String}
    {key : κ} (hidden : p (channel, key) = true) (start timeout : Nat) :
    (b.step (.receive channel key start timeout)).1.drop p = b.drop p ∧
      ((b.step (.receive channel key start timeout)).2.told.filter fun d => !p d.key) = [] := by
  refine ⟨b.drop_receive_self p (channel, key) hidden channel start timeout, ?_⟩
  by_cases at_once : start < (b.log channel).seq ∨ timeout = 0
  · simp [Board.step, receive, at_once, hidden]
  · simp [Board.step, receive, at_once]

theorem run_append (b : Board (String × κ)) (events later : List (Timeline.Event κ)) :
    b.run (events ++ later) =
      (((b.run events).1.run later).1, (b.run events).2 ++ ((b.run events).1.run later).2) := by
  induction events generalizing b with
  | nil => rfl
  | cons event events ih => simp [run, ih]

theorem toldTo_run_cons (b : Board (String × κ)) (reader : String × κ) (event : Timeline.Event κ)
    (events : List (Timeline.Event κ)) :
    Timeline.toldTo reader (b.run (event :: events)).2 =
      ((b.step event).2.told.filter fun d => d.key = reader) ++
        Timeline.toldTo reader ((b.step event).1.run events).2 := by
  simp [Board.run, Timeline.toldTo]

end Board

end StateChannel
