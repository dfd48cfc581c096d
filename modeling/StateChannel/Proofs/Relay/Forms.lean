import StateChannel.Proofs.Relay.Answers

/-!
# The forms of a call

A call may be sent with one id or another, or with none, and alone or as the only entry of a batch.
What comes of it is the same, at the same time and for everybody else: the form shows in the answer
to the call itself, and a call without an id is counted as a notification when it ends.

## Main definitions

* `Form`: an id, or none, and whether there is a batch
* `Form.response`, `Form.count`: the response to a call, and what is counted for it besides
* `Relay.Holding`: a relay with a call that waits, apart from the form of the call
* `Relay.Fate`: what comes of a call, apart from its form

## Main results

* `Relay.exists_operate_counted`: a call that has ended shows in nothing but what is counted
* `Relay.Holding.exists_operate`: a call goes on to wait, ends or is dropped in all forms
* `Relay.forms_alike`: what comes of a call in two forms
-/

namespace StateChannel

/-- A form in which a call is sent: alone or as the only entry of a batch, with an `id` or as a
notification. -/
structure Form where
  /-- The `id` of the call; a notification has `none`. -/
  id : Option Json
  /-- Whether the call is the only entry of a batch. -/
  isBatch : Bool

namespace Form

variable (form : Form)

/-- The response to the call in this form when it ends in `outcome`: none without an `id`; with
one, the answer, which in a batch is the only element of an array. -/
def response (outcome : Except ApiError Outcome) : HttpResponse :=
  match form.id with
  | none => .bare 204
  | some id =>
    let answer := match outcome with
      | .ok outcome => resultAnswer id outcome.toJson
      | .error e => errorAnswer id e
    .json 200 (if form.isBatch then .array [answer] else answer)

/-- What is counted for the form besides `countCall`: a notification, when there is no `id`. -/
def count (m : Metrics) : Metrics := if form.id.isNone then m.notification else m

/-- The call in this form while its reader waits. -/
def waiting (ticket : Ticket) (began : Nat) : InFlight :=
  ⟨ticket, began, form.isBatch, [.waiting form.id]⟩

/-- The call in this form after it has ended in `outcome`. -/
def done (ticket : Ticket) (began : Nat) (outcome : Except ApiError Outcome) : InFlight :=
  ⟨ticket, began, form.isBatch, [.done (Entry.answer form.id outcome)]⟩

theorem response?_done (ticket : Ticket) (began : Nat) (outcome : Except ApiError Outcome) :
    (form.done ticket began outcome).response? = some (form.response outcome) := by
  obtain ⟨id, isBatch⟩ := form
  cases id <;> cases isBatch <;> cases outcome <;> rfl

/-- The JSON `value` is an object, or in a batch an array of one, whose members name `method`,
`params` and the `id` of the form; an `id` is of a kind that `Entry.IsId` takes. -/
def Writes (method : String) (params : Option Json) (value : Json) : Prop :=
  ∃ members, Members.find? "method" members = some (.string method) ∧
    Members.find? "params" members = params ∧ Members.find? "id" members = form.id ∧
      (∀ id ∈ form.id, Entry.IsId id) ∧
        value = if form.isBatch then .array [.object members] else .object members

end Form

/-- `request` is a POST to `/` of the length it announces, with a body no longer than
`config.maxRequestSize` that is read as `value`. -/
structure HttpRequest.Brings (request : HttpRequest) (config : Config) (value : Json) : Prop where
  calls : request.route = .calls
  measured : ∀ n ∈ request.announcedLength?, n = request.body.size
  short : request.body.size ≤ config.maxRequestSize.toNat
  text : ∃ text, String.fromUTF8? request.body = some text ∧ Json.parse? text = some value

namespace Relay

/-! ### A call that has ended -/

theorem finished?_done (form : Form) (ticket : Ticket) (began time : Nat)
    (outcome : Except ApiError Outcome) : finished? time (form.done ticket began outcome) =
      some ⟨ticket, form.response outcome, began, time⟩ := by
  rw [finished?, Form.response?_done]
  rfl

/-- `relay` after `Form.count` has been applied to its metrics. -/
def counted (relay : Relay) (form : Form) : Relay :=
  { relay with metrics := form.count relay.metrics }

theorem countOutcome_notification (m : Metrics) (outcome : Except ApiError Outcome) :
    countOutcome m.notification outcome = (countOutcome m outcome).notification := by
  cases outcome with
  | error e => rfl
  | ok outcome =>
    cases outcome with
    | sent | seq answer => rfl
    | received slice =>
      rw [countOutcome, countOutcome]
      split <;> rfl

/-- `countCall` and `Form.count` commute. -/
theorem countCall_count (form : Form) (m : Metrics) (id : Option Json)
    (outcome : Except ApiError Outcome) (millis : Nat) :
    countCall (form.count m) id outcome millis = form.count (countCall m id outcome millis) := by
  rw [Form.count, Form.count]
  split
  · rw [countCall, countOutcome_notification, countCall]
    cases id <;> rfl
  · rfl

section Counted

variable (relay : Relay) (form : Form)

theorem startEntry_counted (key : Place) (entry : Entry) :
    (relay.counted form).startEntry key entry =
      ((relay.startEntry key entry).1.counted form, (relay.startEntry key entry).2) := by
  cases entry with
  | refused answer => rfl
  | call id method params =>
    simp only [startEntry, counted, countCall_count]
    cases Call.route method params with
    | error e => rfl
    | ok call =>
      dsimp only
      cases (invoke relay.timeline relay.config.receiveTimeout key call).2 <;> rfl

theorem startEntries_counted (ticket : Ticket) (entries : List Entry) (first : Nat) :
    (relay.counted form).startEntries ticket entries first =
      ((relay.startEntries ticket entries first).1.counted form,
        (relay.startEntries ticket entries first).2) := by
  induction entries generalizing relay first with
  | nil => rfl
  | cons entry entries ih => simp only [startEntries, startEntry_counted, ih]

theorem settle_counted (d : Delivery Place) :
    (relay.counted form).settle d = (relay.settle d).counted form := by
  simp only [settle, counted, countCall_count]
  cases relay.inFlight.find? (fun f => f.ticket == d.key.1) <;> rfl

theorem settleAll_counted (deliveries : List (Delivery Place)) :
    (relay.counted form).settleAll deliveries =
      ((relay.settleAll deliveries).1.counted form, (relay.settleAll deliveries).2) := by
  induction deliveries generalizing relay with
  | nil => rfl
  | cons d rest ih =>
    have next := ih { relay.settle d with
      inFlight := (relay.settle d).inFlight.filter fun f => f.response?.isNone }
    simp only [settleAll, settle_counted]
    exact congrArg (fun x : Relay × List Finished => (x.1, _ ++ x.2)) next

theorem resume_counted (ticket : Ticket) (size : Nat) :
    (relay.counted form).resume ticket size =
      ((relay.resume ticket size).1.counted form, (relay.resume ticket size).2) :=
  settleAll_counted { relay with timeline := relay.timeline.resume.1 } form _

theorem submit_counted (ticket : Ticket) (isBatch : Bool) (entries : List Entry) :
    (relay.counted form).submit ticket isBatch entries =
      ((relay.submit ticket isBatch entries).1.counted form,
        (relay.submit ticket isBatch entries).2) := by
  simp only [submit, startEntries_counted]
  generalize relay.startEntries ticket entries 0 = started
  have same : (started.1.counted form).timeline = started.1.timeline := rfl
  rw [same]
  split
  · rw [resume_counted]
  · exact resume_counted { started.1 with inFlight := started.1.inFlight ++
      [⟨ticket, started.1.timeline.now, isBatch, started.2⟩] } form ticket entries.length

theorem pass_counted (millis : Nat) :
    (relay.counted form).pass millis =
      ((relay.pass millis).1.counted form, (relay.pass millis).2) :=
  settleAll_counted { relay with timeline := (relay.timeline.pass millis).1 } form _

end Counted

/-- An answer to a submission with another ticket. `same x` is the same `x` in every form;
`counters` is an answer to `/metrics`, which depends on the form through `base`. -/
inductive Told
  | same (x : Finished)
  | counters (ticket : Ticket) (headOnly : Bool) (base : Metrics) (now : Nat)

/-- The answer that is given where the call was sent in `form`: the counters told are `form.count
base`. -/
def Told.of (form : Form) : Told → Finished
  | same x => x
  | counters ticket headOnly base now =>
    ⟨ticket, readOnly headOnly (form.count base).toJson, now, now⟩

/-- What `counters` tells was asked for by a `/metrics` request among `operations`; `same` asks for
nothing. -/
def Told.Asked (operations : List Operation) : Told → Prop
  | same _ => True
  | counters ticket headOnly _ _ =>
    ∃ request, .begin ticket request ∈ operations ∧ request.route = .metrics headOnly

theorem Told.Asked.mono {operations more : List Operation} {told : Told}
    (asked : told.Asked operations) (all : ∀ operation ∈ operations, operation ∈ more) :
    told.Asked more := by
  cases told with
  | same x => trivial
  | counters ticket headOnly base now =>
    obtain ⟨request, inside, route⟩ := asked
    exact ⟨request, all _ inside, route⟩

theorem asked_of_same {operations : List Operation} {finished : List Finished} :
    ∀ x ∈ finished.map Told.same, x.Asked operations := by
  intro x member
  obtain ⟨y, -, rfl⟩ := List.mem_map.1 member
  trivial

theorem map_of_same (form : Form) (finished : List Finished) :
    (finished.map Told.same).map (Told.of form) = finished := by
  rw [List.map_map]
  exact List.map_id finished

/-- The submission of `request` is the same in every form, or `request` asks for `/metrics` and is
answered with `form.count relay.metrics`. -/
theorem submission_counted (relay : Relay) (request : HttpRequest) :
    (∀ form, (relay.counted form).submission request = relay.submission request) ∨
      ∃ headOnly, request.route = .metrics headOnly ∧ ∀ form,
        (relay.counted form).submission request =
          .answered (readOnly headOnly (form.count relay.metrics).toJson) := by
  -- The limits and the route are read off the request and the configuration, which are the same.
  by_cases long : request.IsOverAnnounced relay.config
  · left
    intro form
    have long' : request.IsOverAnnounced (relay.counted form).config := long
    rw [submission, submission, if_pos long', if_pos long]
  · have short (form : Form) : ¬ request.IsOverAnnounced (relay.counted form).config := long
    cases route : request.route with
    | metrics headOnly =>
      refine .inr ⟨headOnly, rfl, fun form => ?_⟩
      rw [submission, if_neg (short form), route]
      rfl
    | wrongMethod | missing =>
      left
      intro form
      simp only [submission, if_neg (short form), if_neg long, route]
    | calls | health headOnly =>
      left
      intro form
      simp only [submission, if_neg (short form), if_neg long, route]
      rfl

theorem exists_operate_counted (relay : Relay) (operation : Operation) :
    ∃ (after : Relay) (told : List Told), (∀ x ∈ told, x.Asked [operation]) ∧ ∀ form,
      (relay.counted form).operate operation = (after.counted form, told.map (Told.of form)) := by
  cases operation with
  | abort ticket =>
    exact ⟨relay.abort ticket, [], (fun x member => nomatch member), fun form => rfl⟩
  | pass millis =>
    refine ⟨(relay.pass millis).1, (relay.pass millis).2.map Told.same, asked_of_same,
      fun form => ?_⟩
    rw [map_of_same]
    exact relay.pass_counted form millis
  | begin ticket request =>
    rcases relay.submission_counted request with asks | ⟨headOnly, route, asks⟩
    · refine ⟨(relay.begin ticket request).1, (relay.begin ticket request).2.map Told.same,
        asked_of_same, fun form => ?_⟩
      rw [map_of_same]
      simp only [operate, Relay.begin, asks]
      cases relay.submission request with
      | answered response => rfl
      | single entry => exact relay.submit_counted form ticket false [entry]
      | batch entries => exact relay.submit_counted form ticket true entries
    · -- The answer shows the counters, and these have been counted in `form`.
      refine ⟨relay, [.counters ticket headOnly relay.metrics relay.timeline.now], ?_,
        fun form => ?_⟩
      · intro x member
        rw [List.mem_singleton.1 member]
        exact ⟨request, List.mem_singleton_self _, route⟩
      · simp only [operate, Relay.begin, asks]
        rfl

/-! ### A call that waits -/

theorem startEntry_inFlight (relay : Relay) (submissions : List InFlight) (key : Place)
    (entry : Entry) :
    startEntry { relay with inFlight := submissions } key entry =
      ({ (relay.startEntry key entry).1 with inFlight := submissions },
        (relay.startEntry key entry).2) := by
  cases entry with
  | refused answer => rfl
  | call id method params =>
    simp only [startEntry]
    cases Call.route method params with
    | error e => rfl
    | ok call =>
      dsimp only
      cases (invoke relay.timeline relay.config.receiveTimeout key call).2 <;> rfl

/-- `startEntries` does not read `inFlight`: with other `submissions` in the relay it makes the
same entries and the same relay but for these. -/
theorem startEntries_inFlight (relay : Relay) (submissions : List InFlight) (ticket : Ticket)
    (entries : List Entry) (first : Nat) :
    startEntries { relay with inFlight := submissions } ticket entries first =
      ({ (relay.startEntries ticket entries first).1 with inFlight := submissions },
        (relay.startEntries ticket entries first).2) := by
  induction entries generalizing relay first with
  | nil => rfl
  | cons entry entries ih => simp only [startEntries, startEntry_inFlight, ih]

/-- A relay in which the call waits, apart from the form of the call: its place in `inFlight` is
between those of `relay` and `later`. -/
structure Holding (ticket : Ticket) (began : Nat) where
  /-- The relay with only the submissions that came before the call. -/
  relay : Relay
  /-- The submissions that came after the call. -/
  later : List InFlight
  apart : ∀ f ∈ relay.inFlight ++ later, f.ticket ≠ ticket

/-- What comes of the call, apart from its form. It `waits`, it `drops` out with its ticket, or it
`ends`; each case has the relay and the answers that have been given. -/
inductive Fate (ticket : Ticket) (began : Nat)
  | waits (holding : Holding ticket began) (told : List Finished)
  | drops (relay : Relay) (told : List Finished)
  /-- The call ends in `outcome` at `time`. Its answer stands between `before`, which no form
  changes, and `after`, which may tell the counters. -/
  | ends (relay : Relay) (before : List Finished) (outcome : Except ApiError Outcome) (time : Nat)
      (after : List Told)

variable {ticket : Ticket} {began : Nat}

/-- The relay of `holding` in which the call waits in `form`. -/
def Holding.of (form : Form) (holding : Holding ticket began) : Relay :=
  { holding.relay with
    inFlight := holding.relay.inFlight ++ form.waiting ticket began :: holding.later }

namespace Fate

/-- The relay and the answers of the fate where the call was sent in `form`. -/
def of (form : Form) : Fate ticket began → Relay × List Finished
  | waits holding told => (holding.of form, told)
  | drops relay told => (relay, told)
  | ends relay before outcome time after =>
    (relay.counted form,
      before ++ ⟨ticket, form.response outcome, began, time⟩ :: after.map (Told.of form))

/-- The fate when `told` has been answered before. -/
def after (told : List Finished) : Fate ticket began → Fate ticket began
  | waits holding rest => waits holding (told ++ rest)
  | drops relay rest => drops relay (told ++ rest)
  | ends relay before outcome time after => ends relay (told ++ before) outcome time after

theorem of_after (form : Form) (told : List Finished) (fate : Fate ticket began) :
    (fate.after told).of form = ((fate.of form).1, told ++ (fate.of form).2) := by
  cases fate with
  | waits holding rest | drops relay rest => rfl
  | ends relay before outcome time after =>
    simp only [Fate.after, Fate.of, List.append_assoc]

/-- The call `drops` only where `.abort ticket` is among `operations`, and each answer in `after`
is `Told.Asked` there. -/
def Proper (operations : List Operation) : Fate ticket began → Prop
  | waits _ _ => True
  | drops _ _ => .abort ticket ∈ operations
  | ends _ _ _ _ after => ∀ x ∈ after, Told.Asked operations x

theorem Proper.mono {operations more : List Operation} {fate : Fate ticket began}
    (proper : fate.Proper operations) (all : ∀ operation ∈ operations, operation ∈ more) :
    fate.Proper more := by
  cases fate with
  | waits holding told => trivial
  | drops relay told => exact all _ proper
  | ends relay before outcome time after => exact fun x member => (proper x member).mono all

theorem Proper.after {operations : List Operation} {fate : Fate ticket began}
    (proper : fate.Proper operations) (told : List Finished) :
    (fate.after told).Proper operations := by
  cases fate <;> exact proper

end Fate

namespace Holding

variable (holding : Holding ticket began)

/-- The submissions besides the call, in their order. -/
def others : List InFlight := holding.relay.inFlight ++ holding.later

/-- Looking up a ticket `first` other than `ticket` finds the same in every form, namely what it
finds in `holding.others`. -/
theorem find?_of_ne {first : Ticket} (other : first ≠ ticket) (form : Form) :
    (holding.of form).inFlight.find? (fun f => f.ticket == first) =
      holding.others.find? fun f => f.ticket == first := by
  have passed : ((form.waiting ticket began).ticket == first) = false := by
    simpa [Form.waiting] using Ne.symm other
  simp only [of, others, List.find?_append, List.find?_cons, passed]

theorem find?_own (form : Form) :
    (holding.of form).inFlight.find? (fun f => f.ticket == ticket) =
      some (form.waiting ticket began) := by
  have earlier : holding.relay.inFlight.find? (fun f => f.ticket == ticket) = none := by
    refine List.find?_eq_none.2 fun f inside => ?_
    simpa using holding.apart f (List.mem_append_left _ inside)
  have own : ((form.waiting ticket began).ticket == ticket) = true := beq_self_eq_true ticket
  simp only [of, List.find?_append, earlier, List.find?_cons, own, Option.none_or]

/-- A `change` made under `ticket` reaches the call and none of `holding.others`. -/
theorem map_own (form : Form) (change : InFlight → InFlight) :
    ((holding.of form).inFlight.map fun g => if g.ticket = ticket then change g else g) =
      holding.relay.inFlight ++ change (form.waiting ticket began) :: holding.later := by
  have stays {submissions : List InFlight} (apart : ∀ f ∈ submissions, f.ticket ≠ ticket) :
      (submissions.map fun g => if g.ticket = ticket then change g else g) = submissions :=
    (List.map_congr_left fun f inside => if_neg (apart f inside)).trans (List.map_id' submissions)
  have earlier := stays fun f inside => holding.apart f (List.mem_append_left _ inside)
  have later := stays fun f inside => holding.apart f (List.mem_append_right _ inside)
  rw [of, List.map_append, List.map_cons, earlier, later]
  exact congrArg (fun f => _ ++ f :: _) (if_pos rfl)

/-- Settling a delivery `d` to another reader gives one `next` for all forms. -/
theorem exists_settle {d : Delivery Place} (other : d.key ≠ (ticket, 0)) :
    ∃ next : Holding ticket began, ∀ form, (holding.of form).settle d = next.of form := by
  by_cases own : d.key.1 = ticket
  · -- The call has no other place than the first, so that this is told to nobody.
    obtain ⟨k, past⟩ := Nat.exists_eq_succ_of_ne_zero fun first => other (Prod.ext own first)
    refine ⟨{ holding with relay := { holding.relay with
      metrics := countCall holding.relay.metrics none (.ok (.received d.slice))
        (d.time - began) } }, fun form => ?_⟩
    have nobody : (form.waiting ticket began).waitingId d.key.2 = none := by
      rw [past]
      rfl
    have unchanged (answer : Option Json) : (form.waiting ticket began).settle d.key.2 answer =
        form.waiting ticket began := by
      rw [past]
      rfl
    simp only [settle, own, holding.find?_own, nobody, holding.map_own, unchanged]
    rfl
  · -- The delivery is for another submission, if it is for any.
    cases found : holding.others.find? fun f => f.ticket == d.key.1 with
    | none => exact ⟨holding, fun form => by simp only [settle, holding.find?_of_ne own, found]⟩
    | some f =>
      let change (g : InFlight) : InFlight := if g.ticket = d.key.1 then
        g.settle d.key.2 (Entry.answer (f.waitingId d.key.2) (.ok (.received d.slice))) else g
      have kept (g : InFlight) : (change g).ticket = g.ticket := by
        simp only [change]
        split <;> rfl
      -- The call in question has another ticket, so it stays as it is.
      have unchanged (form : Form) : change (form.waiting ticket began) =
          form.waiting ticket began := if_neg (Ne.symm own)
      refine ⟨⟨{ holding.relay with
        metrics := countCall holding.relay.metrics (f.waitingId d.key.2) (.ok (.received d.slice))
          (d.time - f.began)
        inFlight := holding.relay.inFlight.map change }, holding.later.map change, ?_⟩,
        fun form => ?_⟩
      · intro g inside
        rw [← List.map_append] at inside
        obtain ⟨h, before, rfl⟩ := List.mem_map.1 inside
        rw [kept]
        exact holding.apart h before
      · simp only [settle, holding.find?_of_ne own, found]
        have all : (holding.of form).inFlight.map change =
            holding.relay.inFlight.map change ++
              form.waiting ticket began :: holding.later.map change := by
          rw [of, List.map_append, List.map_cons, unchanged]
        exact congrArg (fun inFlight : List InFlight => ({ holding.relay with
          metrics := countCall holding.relay.metrics (f.waitingId d.key.2) (.ok (.received d.slice))
            (d.time - f.began)
          inFlight } : Relay)) all

/-- Settling the delivery `d` to the reader of the call ends the call with `.received d.slice`, in
every form at the same time. -/
theorem settle_own {d : Delivery Place} (own : d.key = (ticket, 0)) (form : Form) :
    (holding.of form).settle d = counted { holding.relay with
      metrics := (countOutcome holding.relay.metrics (.ok (.received d.slice))).request true
        (UInt64.ofNat (d.time - began))
      inFlight := holding.relay.inFlight ++
        form.done ticket began (.ok (.received d.slice)) :: holding.later } form := by
  simp only [settle, own, holding.find?_own, holding.map_own]
  rfl

/-- `holding` without the submissions that have been answered. -/
def retire : Holding ticket began where
  relay := { holding.relay with
    inFlight := holding.relay.inFlight.filter fun f => f.response?.isNone }
  later := holding.later.filter fun f => f.response?.isNone
  apart f inside := by
    rw [← List.filter_append] at inside
    exact holding.apart f (List.mem_filter.1 inside).1

theorem filterMap_finished? (form : Form) (time : Nat) :
    (holding.of form).inFlight.filterMap (finished? time) =
      holding.others.filterMap (finished? time) := by
  have unfinished : finished? time (form.waiting ticket began) = none := rfl
  simp only [of, others, List.filterMap_append, List.filterMap_cons, unfinished]

theorem of_retire (form : Form) : holding.retire.of form = { holding.of form with
    inFlight := (holding.of form).inFlight.filter fun f => f.response?.isNone } := by
  have waits : (form.waiting ticket began).response?.isNone = true := rfl
  simp only [of, retire, List.filter_append, List.filter_cons, waits, if_true]

theorem exists_settleAll (deliveries : List (Delivery Place)) :
    ∃ fate : Fate ticket began, fate.Proper [] ∧
      ∀ form, (holding.of form).settleAll deliveries = fate.of form := by
  induction deliveries generalizing holding with
  | nil => exact ⟨.waits holding [], trivial, fun form => rfl⟩
  | cons d rest ih =>
    by_cases own : d.key = (ticket, 0)
    · -- The call ends among the submissions that end now, and then all goes on without it.
      let outcome : Except ApiError Outcome := .ok (.received d.slice)
      let ended : Relay := { holding.relay with
        metrics := (countOutcome holding.relay.metrics outcome).request true
          (UInt64.ofNat (d.time - began))
        inFlight := holding.others.filter fun f => f.response?.isNone }
      refine ⟨.ends (ended.settleAll rest).1
        (holding.relay.inFlight.filterMap (finished? d.time)) outcome d.time
        ((holding.later.filterMap (finished? d.time) ++ (ended.settleAll rest).2).map Told.same),
        asked_of_same, fun form => ?_⟩
      have gone : (form.done ticket began outcome).response?.isNone = false := by
        rw [Form.response?_done]
        rfl
      have told : (holding.relay.inFlight ++ form.done ticket began outcome ::
          holding.later).filterMap (finished? d.time) =
            holding.relay.inFlight.filterMap (finished? d.time) ++
              ⟨ticket, form.response outcome, began, d.time⟩ ::
                holding.later.filterMap (finished? d.time) := by
        simp only [List.filterMap_append, List.filterMap_cons, finished?_done]
      have left : (holding.relay.inFlight ++ form.done ticket began outcome ::
          holding.later).filter (fun f => f.response?.isNone) =
            holding.others.filter fun f => f.response?.isNone := by
        simp [others, gone]
      have on := settleAll_counted ended form rest
      simp only [settleAll, holding.settle_own own, Fate.of, map_of_same]
      simp only [counted] at on ⊢
      rw [told, left, on, List.append_assoc, List.cons_append]
    · -- The call goes on waiting, whatever else ends now.
      obtain ⟨next, settles⟩ := holding.exists_settle own
      obtain ⟨fate, proper, goes⟩ := ih next.retire
      refine ⟨fate.after (next.others.filterMap (finished? d.time)), proper.after _, fun form => ?_⟩
      have on := goes form
      rw [next.of_retire] at on
      simp only [settleAll, settles, next.filterMap_finished?, Fate.of_after, on]

theorem exists_resume (first : Ticket) (size : Nat) :
    ∃ fate : Fate ticket began, fate.Proper [] ∧
      ∀ form, (holding.of form).resume first size = fate.of form :=
  exists_settleAll { holding with
    relay := { holding.relay with timeline := holding.relay.timeline.resume.1 } }
      (goOnOrder first size holding.relay.timeline.resume.2)

/-- Submitting `entries` under another ticket `first` has one `fate` for all forms. -/
theorem exists_submit {first : Ticket} (apart : first ≠ ticket) (isBatch : Bool)
    (entries : List Entry) :
    ∃ fate : Fate ticket began, fate.Proper [] ∧
      ∀ form, (holding.of form).submit first isBatch entries = fate.of form := by
  let started := holding.relay.startEntries first entries 0
  let own : InFlight := ⟨first, started.1.timeline.now, isBatch, started.2⟩
  let taken : Holding ticket began :=
    { holding with relay := { started.1 with inFlight := holding.relay.inFlight } }
  have starts (form : Form) : (holding.of form).startEntries first entries 0 =
      (taken.of form, started.2) :=
    startEntries_inFlight holding.relay (holding.of form).inFlight first entries 0
  -- The new submission is answered at once, or it stands behind all others.
  cases finished : finished? started.1.timeline.now own with
  | some answer =>
    obtain ⟨fate, proper, goes⟩ := taken.exists_resume first entries.length
    refine ⟨fate.after [answer], proper.after _, fun form => ?_⟩
    have given : finished? (taken.of form).timeline.now
        ⟨first, (taken.of form).timeline.now, isBatch, started.2⟩ = some answer := finished
    simp only [submit, starts, given, goes, Fate.of_after, List.singleton_append]
  | none =>
    have others : ∀ f ∈ taken.relay.inFlight ++ (holding.later ++ [own]), f.ticket ≠ ticket := by
      intro f inside
      rw [← List.append_assoc] at inside
      rcases List.mem_append.1 inside with old | new
      · exact holding.apart f old
      · rw [List.mem_singleton.1 new]
        exact apart
    obtain ⟨fate, proper, goes⟩ :=
      exists_resume ⟨taken.relay, holding.later ++ [own], others⟩ first entries.length
    refine ⟨fate, proper, fun form => ?_⟩
    have waits : finished? (taken.of form).timeline.now
        ⟨first, (taken.of form).timeline.now, isBatch, started.2⟩ = none := finished
    have all : (taken.of form).inFlight ++ [own] =
        taken.relay.inFlight ++ form.waiting ticket began :: (holding.later ++ [own]) :=
      List.append_assoc _ _ _
    simp only [submit, starts, waits, ← goes form]
    exact congrArg (fun inFlight : List InFlight =>
      resume { taken.of form with inFlight } first entries.length) all

/-- An `operation` that does not begin a request under `ticket` has one `fate` for all forms: the
call waits on, ends or is dropped. -/
theorem exists_operate {operation : Operation}
    (fresh : ∀ request, operation ≠ .begin ticket request) :
    ∃ fate : Fate ticket began, fate.Proper [operation] ∧
      ∀ form, (holding.of form).operate operation = fate.of form := by
  cases operation with
  | begin first request =>
    -- A ticket that is in use is not given again.
    have apart : first ≠ ticket := fun same => fresh request (same ▸ rfl)
    have asks (form : Form) : (holding.of form).submission request =
        holding.relay.submission request := rfl
    simp only [operate, Relay.begin, asks]
    cases holding.relay.submission request with
    | answered response =>
      let now := holding.relay.timeline.now
      exact ⟨.waits holding [⟨first, response, now, now⟩], trivial, fun form => rfl⟩
    | single entry =>
      obtain ⟨fate, proper, goes⟩ := holding.exists_submit apart false [entry]
      exact ⟨fate, proper.mono (by simp), goes⟩
    | batch entries =>
      obtain ⟨fate, proper, goes⟩ := holding.exists_submit apart true entries
      exact ⟨fate, proper.mono (by simp), goes⟩
  | abort first =>
    by_cases own : first = ticket
    · subst own
      refine ⟨.drops (abort { holding.relay with inFlight := holding.others } first) [],
        List.mem_singleton_self _, fun form => ?_⟩
      have dropped : ((form.waiting first began).ticket != first) = false := by
        simp [Form.waiting]
      simp only [operate, Relay.abort, of, others, List.filter_append, List.filter_cons, dropped]
      rfl
    · have stays (form : Form) : ((form.waiting ticket began).ticket != first) = true := by
        simpa [Form.waiting] using Ne.symm own
      refine ⟨.waits ⟨holding.relay.abort first, holding.later.filter fun f => f.ticket != first,
        fun f inside => ?_⟩ [], trivial, fun form => ?_⟩
      · simp only [Relay.abort, ← List.filter_append] at inside
        exact holding.apart f (List.mem_filter.1 inside).1
      · simp only [operate, Relay.abort, of, List.filter_append, List.filter_cons, stays]
        rfl
  | pass millis =>
    obtain ⟨fate, proper, goes⟩ := exists_settleAll
      { holding with
        relay := { holding.relay with timeline := (holding.relay.timeline.pass millis).1 } }
      (gather ((holding.relay.timeline.pass millis).2.mergeSort fun d e => decide (Precedes d e)))
    exact ⟨fate, proper.mono (by simp), goes⟩

end Holding

/-! ### Whatever is done later -/

namespace Fate

/-- The tickets in flight are the same in `form` and in `form'`. -/
theorem map_ticket_of (form form' : Form) (fate : Fate ticket began) :
    (fate.of form).1.inFlight.map InFlight.ticket =
      (fate.of form').1.inFlight.map InFlight.ticket := by
  cases fate with
  | waits holding told => simp [Fate.of, Holding.of, Form.waiting]
  | drops relay told | ends relay before outcome time after => rfl

/-- A ticket `first` that is fresh in `form` is fresh in `form'`. -/
theorem fresh_of (fate : Fate ticket began) {form form' : Form} {first : Ticket}
    (fresh : ∀ f ∈ (fate.of form).1.inFlight, f.ticket ≠ first) :
    ∀ f ∈ (fate.of form').1.inFlight, f.ticket ≠ first := by
  intro f inside same
  have used := List.mem_map_of_mem (f := InFlight.ticket) inside
  rw [map_ticket_of form' form, List.mem_map] at used
  obtain ⟨g, inside', same'⟩ := used
  exact fresh g inside' (same'.trans same)

/-- Where all forms have one `fate`, they have one `next` after another `operation`, and what was
`Proper` stays so. -/
theorem exists_operate {past : List Operation} {fate : Fate ticket began}
    (proper : fate.Proper past) {form : Form} {operation : Operation}
    (fresh : ∀ first request, operation = .begin first request →
      ∀ f ∈ (fate.of form).1.inFlight, f.ticket ≠ first) :
    ∃ next : Fate ticket began, next.Proper (past ++ [operation]) ∧ ∀ form, next.of form =
      (((fate.of form).1.operate operation).1,
        (fate.of form).2 ++ ((fate.of form).1.operate operation).2) := by
  -- A call that has ended or was dropped stays so, and one that waits may go either way.
  cases fate with
  | waits holding told =>
    -- The ticket is in use for as long as the call waits.
    have other (request : HttpRequest) : operation ≠ .begin ticket request := fun same =>
      fresh ticket request same (form.waiting ticket began)
        (List.mem_append_right _ List.mem_cons_self) rfl
    obtain ⟨next, proper', goes⟩ := holding.exists_operate other
    refine ⟨next.after told, (proper'.mono (by simp)).after told, fun form => ?_⟩
    rw [of_after, ← goes]
    rfl
  | drops relay told =>
    exact ⟨.drops (relay.operate operation).1 (told ++ (relay.operate operation).2),
      List.mem_append_left _ proper, fun form => rfl⟩
  | ends relay before outcome time after =>
    obtain ⟨next, told, asked, goes⟩ := relay.exists_operate_counted operation
    refine ⟨.ends next before outcome time (after ++ told), fun x member => ?_, fun form => ?_⟩
    · rcases List.mem_append.1 member with old | new
      · exact (proper x old).mono fun other => List.mem_append_left _
      · exact (asked x new).mono fun other => List.mem_append_right _
    · simp only [Fate.of, goes, List.map_append, List.append_assoc, List.cons_append]

theorem exists_operateAll {past : List Operation} {fate : Fate ticket began}
    (proper : fate.Proper past) {form : Form} {operations : List Operation}
    (admits : (fate.of form).1.Admits operations) :
    ∃ last : Fate ticket began, last.Proper (past ++ operations) ∧ ∀ form,
      (fate.of form).1.Admits operations ∧ last.of form =
        (((fate.of form).1.operateAll operations).1,
          (fate.of form).2 ++ ((fate.of form).1.operateAll operations).2) := by
  induction operations generalizing past fate with
  | nil =>
    refine ⟨fate, (List.append_nil past).symm ▸ proper, fun form => ⟨trivial, ?_⟩⟩
    simp only [operateAll, List.append_nil]
  | cons operation operations ih =>
    obtain ⟨next, proper', goes⟩ := exists_operate proper admits.1
    have continues : (next.of form).1.Admits operations := by
      rw [goes]
      exact admits.2
    obtain ⟨last, proper'', goes'⟩ := ih proper' continues
    rw [List.append_assoc] at proper''
    refine ⟨last, proper'', fun other => ?_⟩
    -- The tickets in use are the same in every form, so the operations are admitted in each.
    obtain ⟨admits', all⟩ := goes' other
    simp only [goes other] at admits' all
    refine ⟨⟨fun first request same => fate.fresh_of (admits.1 first request same), admits'⟩, ?_⟩
    rw [all]
    simp only [operateAll, List.append_assoc]

end Fate

/-! ### The call comes in -/

/-- `relay` after a call has ended in `outcome` with `timeline`, apart from the form of the
call. -/
def afterCall (relay : Relay) (timeline : Timeline Place) (outcome : Except ApiError Outcome) :
    Relay :=
  { relay with
    timeline
    metrics := (countOutcome relay.metrics outcome).request outcome.isOk (UInt64.ofNat 0) }

/-- A call that ends at once, with `.done` and the same `outcome` in every form, has one `fate`. -/
theorem exists_fate_of_ended {relay : Relay} {timeline : Timeline Place} {method : String}
    {params : Option Json} {outcome : Except ApiError Outcome} (now : timeline.now = began)
    (starts : ∀ form : Form, relay.startEntry (ticket, 0) (.call form.id method params) =
      ((relay.afterCall timeline outcome).counted form, .done (Entry.answer form.id outcome))) :
    ∃ fate : Fate ticket began, fate.Proper [] ∧ ∀ form : Form,
      relay.submit ticket form.isBatch [.call form.id method params] = fate.of form := by
  subst now
  let ended := relay.afterCall timeline outcome
  refine ⟨.ends (ended.resume ticket 1).1 [] outcome timeline.now
    ((ended.resume ticket 1).2.map Told.same), asked_of_same, fun form => ?_⟩
  have own : finished? (ended.counted form).timeline.now
      ⟨ticket, (ended.counted form).timeline.now, form.isBatch,
        [.done (Entry.answer form.id outcome)]⟩ =
      some ⟨ticket, form.response outcome, timeline.now, timeline.now⟩ :=
    finished?_done form ticket timeline.now timeline.now outcome
  have begins : relay.startEntries ticket [.call form.id method params] 0 =
      (ended.counted form, [.done (Entry.answer form.id outcome)]) := by
    simp only [startEntries, starts, ended]
  simp only [submit, begins, own, resume_counted, Fate.of, map_of_same, List.nil_append,
    List.length_singleton]

/-- A call that starts to wait, with `.waiting form.id` and the same `timeline` in every form, has
one `fate`. -/
theorem exists_fate_of_waiting {relay : Relay} (fresh : ∀ f ∈ relay.inFlight, f.ticket ≠ ticket)
    {timeline : Timeline Place} {method : String} {params : Option Json}
    (now : timeline.now = began)
    (starts : ∀ form : Form, relay.startEntry (ticket, 0) (.call form.id method params) =
      ({ relay with timeline }, .waiting form.id)) :
    ∃ fate : Fate ticket began, fate.Proper [] ∧ ∀ form : Form,
      relay.submit ticket form.isBatch [.call form.id method params] = fate.of form := by
  subst now
  obtain ⟨fate, proper, goes⟩ := Holding.exists_resume
    ⟨{ relay with timeline }, [], fun f inside => fresh f (by simpa using inside)⟩ ticket 1
  refine ⟨fate, proper, fun form => ?_⟩
  have begins : relay.startEntries ticket [.call form.id method params] 0 =
      ({ relay with timeline }, [.waiting form.id]) := by
    simp only [startEntries, starts]
  rw [← goes form]
  simp only [submit, begins]
  rfl

/-- Submitting a call of `method` with `params` under a ticket that is not in use has one `fate`
for all forms. -/
theorem exists_fate {relay : Relay} (fresh : ∀ f ∈ relay.inFlight, f.ticket ≠ ticket)
    (now : relay.timeline.now = began) (method : String) (params : Option Json) :
    ∃ fate : Fate ticket began, fate.Proper [] ∧ ∀ form : Form,
      relay.submit ticket form.isBatch [.call form.id method params] = fate.of form := by
  -- The router reads no id, so it decides the same for all forms.
  cases routed : Call.route method params with
  | error e =>
    have starts (form : Form) : relay.startEntry (ticket, 0) (.call form.id method params) =
        ((relay.afterCall relay.timeline (.error e)).counted form,
          .done (Entry.answer form.id (.error e))) := by
      simp only [startEntry, routed]
      rfl
    exact exists_fate_of_ended now starts
  | ok call =>
    let invoked := invoke relay.timeline relay.config.receiveTimeout (ticket, 0) call
    have later : invoked.1.now = began := (starts_invoke _ _ _ _).now.trans now
    cases given : invoked.2 with
    | some outcome =>
      have starts (form : Form) : relay.startEntry (ticket, 0) (.call form.id method params) =
          ((relay.afterCall invoked.1 (.ok outcome)).counted form,
            .done (Entry.answer form.id (.ok outcome))) := by
        simp only [startEntry, routed, invoked] at given ⊢
        rw [given]
        rfl
      exact exists_fate_of_ended later starts
    | none =>
      have starts (form : Form) : relay.startEntry (ticket, 0) (.call form.id method params) =
          ({ relay with timeline := invoked.1 }, .waiting form.id) := by
        simp only [startEntry, routed, invoked] at given ⊢
        rw [given]
      exact exists_fate_of_waiting fresh later starts

/-- A `config` that passes its check lets a batch of one entry in. -/
theorem one_le_maxBatchSize {config : Config} (checked : config.check = .ok ()) :
    1 ≤ config.maxBatchSize.toNat := by
  rw [Config.check] at checked
  split at checked
  · exact nomatch checked
  · split at checked
    · exact nomatch checked
    · split at checked
      · exact nomatch checked
      · next some => exact Nat.pos_of_ne_zero fun zero => some (UInt64.toNat_inj.1 zero)

/-- A `request` whose body is read as the call in `form` begins as `submit` with that call as its
only entry. -/
theorem begin_of_brings {relay : Relay} (checked : relay.config.check = .ok ())
    {request : HttpRequest} {value : Json} (brings : request.Brings relay.config value)
    {form : Form} {method : String} {params : Option Json}
    (writes : form.Writes method params value) (ticket : Ticket) :
    relay.begin ticket request =
      relay.submit ticket form.isBatch [.call form.id method params] := by
  -- The text is read as one entry, alone or as the only one of a batch.
  obtain ⟨calls, measured, short, text, utf8, parsed⟩ := brings
  obtain ⟨members, named, given, identified, fits, rfl⟩ := writes
  have asks := submission_of_text rfl calls measured short utf8
  have entry : Entry.ofJson (.object members) = .call form.id method params := by
    simp only [Entry.ofJson, identified, named, given, if_pos fits]
  cases batch : form.isBatch with
  | false =>
    rw [batch, if_neg Bool.false_ne_true] at parsed
    rw [Submission.ofText_single parsed fun items => Json.noConfusion, entry,
      Submission.ofRead_ok] at asks
    simp only [Relay.begin, asks]
  | true =>
    rw [batch, if_pos rfl] at parsed
    rw [Submission.ofText_batch parsed (List.cons_ne_nil _ _) (one_le_maxBatchSize checked),
      List.map_singleton, entry, Submission.ofRead_ok] at asks
    simp only [Relay.begin, asks]

/-- **All forms of a call are alike.** Take any state of a relay, two requests that bring one call
of `method` with `params`, the first in `form` and the second in `form'`, and the same operations
`later`. Then `later` is admitted after the second if it is after the first, the timelines (all
logs, readers and times) are equal, and one `fate` gives the relay and the answers of both runs. By
`Fate.of` the call thus ends at one time and in one `outcome`, of which each run gets the
`Form.response`; the metrics differ by the notification that `Form.count` adds when the call ends,
and by `Proper` others see of this only the counters they have asked for. -/
theorem forms_alike {relay : Relay} (checked : relay.config.check = .ok ()) {ticket : Ticket}
    {method : String} {params : Option Json} {form form' : Form} {value value' : Json}
    (writes : form.Writes method params value) (writes' : form'.Writes method params value')
    {request request' : HttpRequest} (brings : request.Brings relay.config value)
    (brings' : request'.Brings relay.config value') {later : List Operation}
    (admits : relay.Admits (.begin ticket request :: later)) :
    relay.Admits (.begin ticket request' :: later) ∧
    (relay.operateAll (.begin ticket request :: later)).1.timeline =
      (relay.operateAll (.begin ticket request' :: later)).1.timeline ∧
    ∃ fate : Fate ticket relay.timeline.now, fate.Proper later ∧
      relay.operateAll (.begin ticket request :: later) = fate.of form ∧
      relay.operateAll (.begin ticket request' :: later) = fate.of form' := by
  have fresh := admits.1 ticket request rfl
  -- One fate tells what becomes of the call in every form, at first and after `later`.
  obtain ⟨fate, proper, goes⟩ := exists_fate fresh rfl method params
  have begins := (begin_of_brings checked brings writes ticket).trans (goes form)
  have begins' := (begin_of_brings checked brings' writes' ticket).trans (goes form')
  have continues : (fate.of form).1.Admits later := begins ▸ admits.2
  obtain ⟨last, proper', goes'⟩ := Fate.exists_operateAll proper continues
  have whole : relay.operateAll (.begin ticket request :: later) = last.of form := by
    rw [(goes' form).2]
    simp only [operateAll, operate, begins]
  have whole' : relay.operateAll (.begin ticket request' :: later) = last.of form' := by
    rw [(goes' form').2]
    simp only [operateAll, operate, begins']
  refine ⟨⟨fun first other same => ?_, ?_⟩, ?_, last, proper', whole, whole'⟩
  · obtain ⟨rfl, -⟩ := Operation.begin.inj same
    exact fresh
  · show (relay.begin ticket request').1.Admits later
    rw [begins']
    exact (goes' form').1
  · rw [whole, whole']
    cases last <;> rfl

/-- The body of a `receive` on channel `a` that is sent alone, with the id 1. -/
def receiveAloneText : String := "\x7b\"id\":1,\"method\":\"receive\",\"params\":[\"a\",0]\x7d"

/-- The body of the same `receive`, sent without an id as the only entry of a batch. -/
def receiveInBatchText : String := "[\x7b\"params\":[\"a\",0],\"method\":\"receive\"\x7d]"

/-- The case of `forms_alike` for `receiveAloneText` and `receiveInBatchText`: either reader finds
nothing and waits for three seconds, and the timelines are equal. -/
theorem forms_alike_reader :
    ((start .standard .silent).operateAll
        [.begin .foreground ⟨"POST", "/", [], receiveAloneText.toUTF8⟩, .pass 3000]).1.timeline =
      ((start .standard .silent).operateAll
        [.begin .foreground ⟨"POST", "/", [], receiveInBatchText.toUTF8⟩,
          .pass 3000]).1.timeline := by
  have writes : Form.Writes ⟨some (Json.ofCount 1), false⟩ "receive"
      (some (.array [.string "a", Json.ofCount 0]))
      (.object [("id", Json.ofCount 1), ("method", .string "receive"),
        ("params", .array [.string "a", Json.ofCount 0])]) :=
    ⟨_, rfl, rfl, rfl, (fun id given => Option.some.inj given ▸ trivial), rfl⟩
  have writes' : Form.Writes ⟨none, true⟩ "receive" (some (.array [.string "a", Json.ofCount 0]))
      (.array [.object [("method", .string "receive"),
        ("params", .array [.string "a", Json.ofCount 0])]]) :=
    ⟨_, rfl, rfl, rfl, (fun id given => nomatch given), rfl⟩
  have brings : HttpRequest.Brings ⟨"POST", "/", [], receiveAloneText.toUTF8⟩ .standard
      (.object [("id", Json.ofCount 1), ("method", .string "receive"),
        ("params", .array [.string "a", Json.ofCount 0])]) :=
    ⟨rfl, (fun n given => nomatch given), by decide, _, rfl, rfl⟩
  have brings' : HttpRequest.Brings ⟨"POST", "/", [], receiveInBatchText.toUTF8⟩ .standard
      (.array [.object [("method", .string "receive"),
        ("params", .array [.string "a", Json.ofCount 0])]]) :=
    ⟨rfl, (fun n given => nomatch given), by decide, _, rfl, rfl⟩
  have admits : (start .standard .silent).Admits
      [.begin .foreground ⟨"POST", "/", [], receiveAloneText.toUTF8⟩, .pass 3000] :=
    ⟨(fun _ _ _ _ inside => nomatch inside), (fun _ _ other => nomatch other), trivial⟩
  exact (forms_alike Config.check_standard writes writes' brings brings' admits).2.1

end Relay

end StateChannel
