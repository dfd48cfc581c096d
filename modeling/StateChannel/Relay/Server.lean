import StateChannel.Relay.Http
import StateChannel.Relay.Metrics
import StateChannel.Relay.Timeline

/-!
# The relay

A relay takes requests, each under a ticket, and answers them at once or later. The requests
of a batch are started in order, each running until it has to wait; those that wait go on
after the last one has been started. All requests woken by a request go on after it has started
everything, in the order in which they were woken. Requests whose time is up at one moment are
answered in the order of their waits, but the one in the foreground before all others.

## Main definitions

* `Relay`: the state, with the requests that are still to be answered
* `Relay.begin`: takes a request
* `Relay.abort`: drops a request where it waits
* `Relay.pass`: lets time pass
* `Finished`: an answered request

## Main results

* `Relay.abort_metrics`: dropping a request counts nothing
-/

namespace StateChannel

/-- The name under which a request is followed. -/
inductive Ticket
  /-- The request whose answer its sender waits for. -/
  | foreground
  | background (name : String)
  deriving DecidableEq, Repr

/-- One request of a submission that waits: the ticket of the submission, and the place among its
entries. -/
abbrev Place := Ticket × Nat

/-- How far one request of a submission has come. -/
inductive Progress
  /-- It is done; a notification has no answer. -/
  | done (answer : Option Json)
  /-- It waits for messages, and its answer will have the `id`. -/
  | waiting (id : Option Json)
  deriving Repr

/-- The answer of a request that is done. -/
def Progress.answer? : Progress → Option (Option Json)
  | .done answer => some answer
  | .waiting _ => none

/-- A submission that has been started. -/
structure InFlight where
  ticket : Ticket
  /-- The time at which it came in. -/
  began : Nat
  isBatch : Bool
  entries : List Progress
  deriving Repr

/-- A request that has been answered. -/
structure Finished where
  ticket : Ticket
  response : HttpResponse
  /-- The time at which it came in. -/
  began : Nat
  /-- The time at which it was answered. -/
  time : Nat
  deriving Repr

/-- A relay. -/
structure Relay where
  config : Config
  /-- The words of the relay for a body that it could not read. -/
  wording : Wording
  timeline : Timeline Place
  metrics : Metrics
  inFlight : List InFlight

namespace InFlight

/-- The response, once all requests are done: a batch is answered by the answers in order, if
any. -/
def response? (f : InFlight) : Option HttpResponse :=
  (f.entries.mapM Progress.answer?).map fun answers =>
    let present := answers.filterMap id
    HttpResponse.ofAnswer
      (if f.isBatch then (if present.isEmpty then none else some (.array present))
        else present.head?)

/-- Marks the request at `index` as done with `answer`. -/
def settle (f : InFlight) (index : Nat) (answer : Option Json) : InFlight :=
  { f with entries := f.entries.set index (.done answer) }

/-- The `id` of the request at `index`, if it waits. -/
def waitingId (f : InFlight) (index : Nat) : Option Json :=
  match f.entries[index]? with
  | some (.waiting id) => id
  | _ => none

end InFlight

namespace Relay

/-- A relay with `config` that has seen nothing yet. -/
def start (config : Config) (wording : Wording) : Relay := ⟨config, wording, .empty, .zero, []⟩

/-- A relay with `config`, which is checked first. -/
def create (config : Config) (wording : Wording) : Except RelayError Relay :=
  match config.check with
  | .ok () => .ok (start config wording)
  | .error cause => .error (.config cause)

/-- Counts what a call gave: a message that was stored, or a reader that was told none. -/
def countOutcome (m : Metrics) : Except ApiError Outcome → Metrics
  | .ok .sent => m.messageSent
  | .ok (.received slice) => if slice.isEmpty then m.emptyReceive else m
  | _ => m

/-- Counts a call that has ended in `outcome` after `millis`, as a notification too if it has no
`id`. -/
def countCall (m : Metrics) (id : Option Json) (outcome : Except ApiError Outcome) (millis : Nat) :
    Metrics :=
  let m := (countOutcome m outcome).request outcome.isOk (UInt64.ofNat millis)
  if id.isNone then m.notification else m

/-- Starts a call: it gives its outcome, or waits under `key` for `timeout`. -/
def invoke (t : Timeline Place) (timeout : Duration) (key : Place) :
    Call → Timeline Place × Option Outcome
  | .send channel message => ((t.append channel message).1, some .sent)
  | .getSeq channel =>
    let (t, seq) := t.seq channel
    (t, some (.seq ⟨seq⟩))
  | .receive channel start =>
    let (t, delivery) := t.receive key channel start.toNat timeout.wait
    (t, delivery.map fun d => .received d.slice)

/-- Starts one request at the place `key`. -/
def startEntry (relay : Relay) (key : Place) : Entry → Relay × Progress
  | .refused answer => (relay, .done (some answer))
  | .call id method params =>
    match Call.route method params with
    | .error e =>
      ({ relay with metrics := countCall relay.metrics id (.error e) 0 },
        .done (Entry.answer id (.error e)))
    | .ok call =>
      let (timeline, outcome) := invoke relay.timeline relay.config.receiveTimeout key call
      match outcome with
      | some outcome =>
        ({ relay with timeline, metrics := countCall relay.metrics id (.ok outcome) 0 },
          .done (Entry.answer id (.ok outcome)))
      | none => ({ relay with timeline }, .waiting id)

/-- Starts the requests of a submission in order, the first at the place with the given number. -/
def startEntries (relay : Relay) (ticket : Ticket) :
    List Entry → Nat → Relay × List Progress
  | [], _ => (relay, [])
  | entry :: entries, index =>
    let (relay, progress) := relay.startEntry (ticket, index) entry
    let (relay, rest) := relay.startEntries ticket entries (index + 1)
    (relay, progress :: rest)

/-- Ends the call that has waited at `d.key`, with what its reader was told. -/
def settle (relay : Relay) (d : Delivery Place) : Relay :=
  match relay.inFlight.find? (fun f => f.ticket == d.key.1) with
  | none => relay
  | some f =>
    let id := f.waitingId d.key.2
    let outcome : Except ApiError Outcome := .ok (.received d.slice)
    { relay with
      -- A call counts when it ends, so the latency is the time that it waited.
      metrics := countCall relay.metrics id outcome (d.time - f.began)
      inFlight := relay.inFlight.map fun g =>
        if g.ticket = d.key.1 then g.settle d.key.2 (Entry.answer id outcome) else g }

/-- The answered form of a submission, if all its requests are done. -/
def finished? (time : Nat) (f : InFlight) : Option Finished :=
  f.response?.map fun response => ⟨f.ticket, response, f.began, time⟩

/-- Takes what readers were told, one after the other, and answers the requests that are done. -/
def settleAll (relay : Relay) : List (Delivery Place) → Relay × List Finished
  | [] => (relay, [])
  | d :: rest =>
    let relay := relay.settle d
    let done := relay.inFlight.filterMap (finished? d.time)
    let (relay, later) :=
      settleAll { relay with inFlight := relay.inFlight.filter fun f => f.response?.isNone } rest
    (relay, done ++ later)

/-- Brings together what belongs to one submission, at the place of the first. -/
def gather (deliveries : List (Delivery Place)) : List (Delivery Place) :=
  (deliveries.map (·.key.1)).eraseDups.flatMap fun ticket =>
    deliveries.filter fun d => d.key.1 == ticket

/-- Up to this many requests of a batch are looked after in turns. -/
def roundSize : Nat := 30

/-- The order in which woken submissions go on after one of `size` entries has been started under
`ticket`: that one itself is the last, if it goes through its requests in turns. A longer batch
takes up those of its own that it has woken before it lets others go on. -/
def goOnOrder (ticket : Ticket) (size : Nat) (deliveries : List (Delivery Place)) :
    List (Delivery Place) :=
  let (own, others) := deliveries.partition fun d => d.key.1 == ticket
  if size ≤ roundSize then gather others ++ own else own ++ gather others

/-- Lets the woken readers go on after a submission has been started. -/
def resume (relay : Relay) (ticket : Ticket) (size : Nat) : Relay × List Finished :=
  let (timeline, deliveries) := relay.timeline.resume
  settleAll { relay with timeline } (goOnOrder ticket size deliveries)

/-- Starts `entries` as a submission, answers it if nothing of it has to wait, and lets woken
readers go on. -/
def submit (relay : Relay) (ticket : Ticket) (isBatch : Bool) (entries : List Entry) :
    Relay × List Finished :=
  let (relay, progress) := relay.startEntries ticket entries 0
  let f : InFlight := ⟨ticket, relay.timeline.now, isBatch, progress⟩
  match finished? relay.timeline.now f with
  | some own =>
    -- Nobody waits on its own answer, so that one comes before those of the readers it woke.
    let (relay, others) := relay.resume ticket entries.length
    (relay, own :: others)
  | none => resume { relay with inFlight := relay.inFlight ++ [f] } ticket entries.length

/-- What a relay says about its health. -/
def health (relay : Relay) : Json :=
  Json.ofMembers [
    ("status", .string "ok"),
    ("service", .string "rpc-channel-server"),
    ("version", .string "0.1.0"),
    ("channels", Json.ofCount relay.timeline.registry.count)]

/-- The response, without its body where only the head is asked for. -/
def readOnly (headOnly : Bool) (value : Json) : HttpResponse :=
  let response := HttpResponse.json 200 value
  if headOnly then response.headOnly else response

/-- The response to a body that is announced as too long. -/
def tooLong (resource : Resource) : HttpResponse :=
  let response := HttpResponse.plain 413 "length limit exceeded"
  if resource.IsHeadOnly then response.headOnly else response

/-- What a request asks for. A body that is announced as too long is refused before all else. -/
def submission (relay : Relay) (r : HttpRequest) : Submission :=
  if r.IsOverAnnounced relay.config then .answered (tooLong r.route)
  else match r.route with
    | .missing => .answered (.bare 404)
    | .wrongMethod => .answered (.bare 405)
    | .health headOnly => .answered (readOnly headOnly relay.health)
    | .metrics headOnly => .answered (readOnly headOnly relay.metrics.toJson)
    | .calls => Submission.ofRead relay.wording (Submission.ofBody relay.config r)

/-- Takes the request `r` in under `ticket`. What is answered at once comes first. -/
def begin (relay : Relay) (ticket : Ticket) (r : HttpRequest) : Relay × List Finished :=
  let now := relay.timeline.now
  match relay.submission r with
  | .answered response => (relay, [⟨ticket, response, now, now⟩])
  | .single entry => relay.submit ticket false [entry]
  | .batch entries => relay.submit ticket true entries

/-- Drops the requests of `ticket` where they wait. -/
def abort (relay : Relay) (ticket : Ticket) : Relay :=
  { relay with
    timeline := relay.timeline.drop fun key => key.1 == ticket
    inFlight := relay.inFlight.filter fun f => f.ticket != ticket }

/-- What is told in the foreground comes before what is told elsewhere at the same time. -/
def Precedes (d e : Delivery Place) : Prop :=
  d.time < e.time ∨ d.time = e.time ∧ (d.key.1 = .foreground ∨ e.key.1 ≠ .foreground)

instance (d e : Delivery Place) : Decidable (Precedes d e) :=
  inferInstanceAs (Decidable (_ ∨ _))

/-- Lets `millis` pass. -/
def pass (relay : Relay) (millis : Nat) : Relay × List Finished :=
  let (timeline, deliveries) := relay.timeline.pass millis
  settleAll { relay with timeline }
    (gather (deliveries.mergeSort fun d e => decide (Precedes d e)))

/-- How long the submission of `ticket` can still take: until the last of its readers stops
waiting. -/
def remaining? (relay : Relay) (ticket : Ticket) : Option Nat :=
  ((relay.timeline.waits.filter fun w => w.key.1 == ticket).map
    fun w => w.deadline - relay.timeline.now).max?

/-- The submission `f` took at least as long as a reader may wait. -/
def WaitedOut (relay : Relay) (f : Finished) : Prop :=
  f.began + relay.config.receiveTimeout.millis ≤ f.time

instance (relay : Relay) (f : Finished) : Decidable (relay.WaitedOut f) :=
  inferInstanceAs (Decidable (_ ≤ _))

theorem abort_metrics (relay : Relay) (ticket : Ticket) :
    (relay.abort ticket).metrics = relay.metrics := rfl

theorem abort_registry (relay : Relay) (ticket : Ticket) :
    (relay.abort ticket).timeline.registry = relay.timeline.registry := rfl

end Relay

end StateChannel
