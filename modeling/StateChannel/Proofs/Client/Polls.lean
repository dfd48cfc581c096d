import StateChannel.Proofs.Client.Posting
import StateChannel.Proofs.Relay.Messages
import StateChannel.Proofs.Relay.Readers

/-!
# What a client gets from its relay

A client polls a relay that others use as well. It gets the messages that the relay has for it,
unless one of them is nested so deeply that it fills the room that a request has: an answer puts one
more container around each message than the request in which it was sent.

## Main definitions

* `Relay.among`: a relay as the other end of an exchange, while others use it
* `Relay.withMessage`: a relay that has one message
* `nested`: an array in an array, and so on

## Main results

* `Relay.reply_poll`: what a relay that others use replies to a poll
* `RelayClient.receive_of_answered`: what a client gets from the answer to its poll
* `RelayClient.receive_among`: what a poll gives, for every relay and whatever else is done to it
* `RelayClient.receive_nested`: one message that a relay takes keeps its readers from all others
-/

namespace StateChannel

/-! ### A relay that others use -/

namespace Relay

/-- A relay as the other end of an exchange, to which the operations `later` are done after each
request. -/
def among (later : List Operation) : Exchange Relay := fun post relay =>
  let (relay, finished) := relay.begin .foreground post.toHttp
  let (relay, more) := relay.operateAll later
  (((responseTo? .foreground (finished ++ more)).map HttpResponse.reply).getD .silence, relay)

theorem responseTo?_of_responsesTo {ticket : Ticket} {finished : List Finished}
    {response : HttpResponse} (single : responsesTo ticket finished = [response]) :
    responseTo? ticket finished = some response := by
  have first := congrArg List.head? single
  rwa [responsesTo, List.head?_map, List.head?_filter] at first

variable {relay begun : Relay} {channel : String} {position id : UInt64} {later : List Operation}

/-- A poll is replied to with what the log of `channel` holds past `position` after the poll and
some first part `done` of `later`. -/
theorem reply_poll (steady : relay.Steady) (idle : ∀ f ∈ relay.inFlight, f.ticket ≠ .foreground)
    (short : (Post.poll channel position id).toHttp.body.size ≤ relay.config.maxRequestSize.toNat)
    (polled : begun = (relay.begin .foreground (Post.poll channel position id).toHttp).1)
    (admits : begun.Admits later)
    (others : ∀ operation ∈ later, operation.ticket? ≠ some .foreground)
    (long : relay.config.receiveTimeout.wait ≤ elapsed later) :
    ∃ done rest, later = done ++ rest ∧
      ((among later (Post.poll channel position id)).run relay).1 = .response 200
        (resultAnswer (Json.ofUInt64 id)
          (((begun.operateAll done).1.timeline.registry.logOf channel).slice
            position.toNat).toJson).render := by
  have asks := relay.submission_poll channel position id short
  have begins : relay.begin .foreground (Post.poll channel position id).toHttp =
      relay.submit .foreground false [.call (some (Json.ofUInt64 id)) "receive"
        (some (.array [.string channel, Json.ofUInt64 position]))] := by
    simp only [Relay.begin, asks]
  obtain ⟨done, rest, split, answered⟩ := steady.responses_poll idle
    (Call.route_poll channel position) (begins.symm.trans (Prod.ext polled.symm rfl)) admits others
    long
  refine ⟨done, rest, split, ?_⟩
  simp only [among, ← polled, StateT.run]
  rw [responseTo?_of_responsesTo answered]
  rfl

/-- The messages that a poll finds past `first` are within `Node.maxDepth - 2`. -/
theorem within_slice {config : Config} {wording : Wording} {operations : List Operation}
    (admitted : (start config wording).Admits operations)
    (reached : relay = ((start config wording).operateAll operations).1)
    (idle : ∀ f ∈ relay.inFlight, f.ticket ≠ .foreground) {request : HttpRequest}
    (polled : begun = (relay.begin .foreground request).1) (admits : begun.Admits later)
    (channel : String) (first : Nat) :
    ∀ message ∈ (((begun.operateAll later).1.timeline.registry.logOf channel).slice first).messages,
      message.Within (Node.maxDepth - 2) := by
  intro message inside
  -- The poll and what follows it are operations like those before it.
  have admitted : (start config wording).Admits
      (operations ++ .begin .foreground request :: later) := by
    refine admits_append.2 ⟨admitted, fun ticket request same => ?_, ?_⟩
    · obtain ⟨rfl, rfl⟩ := Operation.begin.inj same
      exact reached ▸ idle
    · rw [← reached]
      exact polled ▸ admits
  have whole : (begun.operateAll later).1 =
      ((start config wording).operateAll
        (operations ++ .begin .foreground request :: later)).1 := by
    rw [operateAll_append, ← reached, polled]
    rfl
  rw [whole] at inside
  exact within_of_mem_logOf config wording admitted (List.mem_of_mem_drop inside)

end Relay

/-! ### What a client gets -/

namespace RelayClient

/-- **A client gets what its poll is answered with**, whoever gives the answer: `slice` if
`slice.IsReadable`, and otherwise a parse error. -/
theorem receive_of_answered {σ : Type} (client : RelayClient σ) (channel : String) (start : UInt64)
    (session : Session σ) {status : Nat} {slice : Slice} (free : ∀ m ∈ slice.messages, m.FloatFree)
    (ordered : ∀ m ∈ slice.messages, m.Ordered) (few : slice.seq < UInt64.size)
    (answered : ((client.exchange (Post.poll channel start session.nextId)).run session.server).1 =
      .response status (resultAnswer (Json.ofUInt64 session.nextId) slice.toJson).render) :
    ((client.receive channel start.toNat).run.run session).1 =
      if slice.IsReadable then .ok slice else .error (.parse .undecodable) := by
  have position : Json.ofCount start.toNat = Json.ofUInt64 start := by
    rw [Json.ofCount, UInt64.ofNat_toNat]
  have run : ((client.receive channel start.toNat).run.run session).1 =
      client.readReply Slice.decoder
        ((client.exchange (Post.poll channel start session.nextId)).run session.server).1 := by
    rw [receive, position]
    rfl
  rw [run, answered, readReply]
  exact readResponse_resultAnswer session.nextId free ordered few

end RelayClient

/-! ### One message -/

/-- A relay with a single `message`, on channel `a`. -/
def Relay.withMessage (message : Json) : Relay :=
  ((start .standard .silent).submit .foreground false
    [.call (some (Json.ofUInt64 0)) "send" (some (.array [.string "a", message]))]).1

section Message

variable {message : Json}

theorem Relay.begin_append (free : message.FloatFree)
    (within : message.Within (Node.maxDepth - 2))
    (short : (Post.append "a" message 0).toHttp.body.size ≤ Config.standard.maxRequestSize.toNat) :
    (start .standard .silent).begin .foreground (Post.append "a" message 0).toHttp =
      (withMessage message,
        [⟨.foreground, .ofAnswer (some (resultAnswer (Json.ofUInt64 0) .null)), 0, 0⟩]) := by
  rw [Relay.begin, (start .standard .silent).submission_append "a" 0 free within short]
  rfl

theorem Relay.exchange_append (free : message.FloatFree)
    (within : message.Within (Node.maxDepth - 2))
    (short : (Post.append "a" message 0).toHttp.body.size ≤ Config.standard.maxRequestSize.toNat) :
    (exchange (Post.append "a" message 0)).run (start .standard .silent) =
      (.response 200 (resultAnswer (Json.ofUInt64 0) .null).render, withMessage message) := by
  simp only [exchange, StateT.run, begin_append free within short]
  rfl

theorem Relay.exchange_poll_withMessage (message : Json) :
    ((exchange (Post.poll "a" 0 0)).run (withMessage message)).1 =
      .response 200 (resultAnswer (Json.ofUInt64 0) (Slice.mk [message] 1).toJson).render := by
  have short : (Post.poll "a" 0 0).toHttp.body.size ≤ Config.standard.maxRequestSize.toNat := by
    decide
  have poll := (withMessage message).submission_poll "a" 0 0 short
  simp only [exchange, StateT.run, Relay.begin, poll]
  rfl

theorem RelayClient.receive_withMessage (free : message.FloatFree) (ordered : message.Ordered) :
    (((RelayClient.mk "" Relay.exchange).receive "a" 0).run.run ⟨0, .withMessage message⟩).1 =
      if (Slice.mk [message] 1).IsReadable then .ok ⟨[message], 1⟩
      else .error (.parse .undecodable) :=
  receive_of_answered ⟨"", Relay.exchange⟩ "a" 0 ⟨0, .withMessage message⟩
    (List.forall_mem_singleton.2 free) (List.forall_mem_singleton.2 ordered)
    (Nat.le_of_ble_eq_true rfl) (Relay.exchange_poll_withMessage message)

end Message

/-- Null inside `n` arrays. -/
def nested : Nat → Json
  | 0 => .null
  | n + 1 => .array [nested n]

theorem depth_nested (n : Nat) : (nested n).depth = n := by
  induction n with
  | zero => rfl
  | succ n ih => simp [nested, Json.depth, Json.depthItems, ih]

theorem ordered_nested (n : Nat) : (nested n).Ordered := by
  induction n with
  | zero => exact .null
  | succ n ih => exact .array (List.forall_mem_singleton.2 ih)

theorem floatFree_nested (n : Nat) : (nested n).FloatFree := by
  induction n with
  | zero => exact .null
  | succ n ih => exact .array (List.forall_mem_singleton.2 ih)

/-! ### Every poll -/

namespace RelayClient

/-- **What a poll gives.** A client polls `channel` from `start` at any relay that has been
reached, and the operations `later` are done while it waits, for as long as a reader may wait. The
relay answers with the `slice` past `start` of the log as it is after the poll and some first part
`done` of `later`. If the messages have no floating-point numbers, the client gets just that
`slice` if it `IsReadable`, and otherwise a parse error. A message that makes it unreadable has
filled all the depth that its own request had. -/
theorem receive_among {config : Config} {wording : Wording} {operations : List Relay.Operation}
    {relay : Relay} (admitted : (Relay.start config wording).Admits operations)
    (reached : relay = ((Relay.start config wording).operateAll operations).1)
    (idle : ∀ f ∈ relay.inFlight, f.ticket ≠ .foreground) (url channel : String)
    (start id : UInt64)
    (short : (Post.poll channel start id).toHttp.body.size ≤ config.maxRequestSize.toNat)
    {begun : Relay}
    (polled : begun = (relay.begin .foreground (Post.poll channel start id).toHttp).1)
    {later : List Relay.Operation} (admits : begun.Admits later)
    (others : ∀ operation ∈ later, operation.ticket? ≠ some .foreground)
    (long : config.receiveTimeout.wait ≤ Relay.elapsed later) :
    ∃ done rest slice, later = done ++ rest ∧
      slice = ((begun.operateAll done).1.timeline.registry.logOf channel).slice start.toNat ∧
      (∀ m ∈ slice.messages, m.depth + 2 ≤ Node.maxDepth) ∧
      ((∀ m ∈ slice.messages, m.FloatFree) → slice.seq < UInt64.size →
        (((RelayClient.mk url (Relay.among later)).receive channel start.toNat).run.run
            ⟨id, relay⟩).1 =
          if slice.IsReadable then .ok slice else .error (.parse .undecodable)) := by
  have configured : relay.config = config := reached ▸ Relay.config_operateAll _ operations
  have steady : relay.Steady := reached ▸ (Relay.steady_start config wording).operateAll admitted
  obtain ⟨done, rest, split, answered⟩ := Relay.reply_poll steady idle (configured ▸ short) polled
    admits others (configured ▸ long)
  -- The messages of a log came in by requests, so they are as deep as a request lets them be.
  have within := Relay.within_slice admitted reached idle polled
    (Relay.admits_append.1 (split ▸ admits)).1 channel start.toNat
  refine ⟨done, rest, _, split, rfl, fun m inside => ?_, fun free few => ?_⟩
  · have room := (within m inside).room
    unfold Node.maxDepth at room ⊢
    omega
  · exact receive_of_answered _ channel start ⟨id, relay⟩ free
      (fun m inside => (within m inside).ordered) few answered

/-- The deepest message that a client can read: the case of `receive_among` for null inside 124
arrays, with nothing else done. -/
theorem receive_among_deepest :
    (((RelayClient.mk "" (Relay.among [.pass 3000])).receive "a" 0).run.run
      ⟨0, .withMessage (nested 124)⟩).1 = .ok ⟨[nested 124], 1⟩ := by
  have free := floatFree_nested 124
  have within : (nested 124).Within (Node.maxDepth - 2) :=
    ⟨ordered_nested 124, (depth_nested 124).symm ▸ by decide⟩
  have readable : (Slice.mk [nested 124] 1).IsReadable :=
    List.forall_mem_singleton.2 ((depth_nested 124).symm ▸ by decide)
  have fits : (Post.append "a" (nested 124) 0).toHttp.body.size ≤
      Config.standard.maxRequestSize.toNat := by decide +kernel
  have short : (Post.poll "a" 0 0).toHttp.body.size ≤ Config.standard.maxRequestSize.toNat := by
    decide
  -- Nothing else about the message counts from here on.
  generalize nested 124 = message at free within readable fits ⊢
  have reached : .withMessage message = ((Relay.start .standard .silent).operateAll
      [.begin .foreground (Post.append "a" message 0).toHttp]).1 := by
    rw [Relay.operateAll, Relay.operate, Relay.begin_append free within fits]
    rfl
  obtain ⟨done, rest, slice, split, same, -, reads⟩ := @receive_among .standard .silent
    [.begin .foreground (Post.append "a" message 0).toHttp] (.withMessage message)
    ⟨fun _ _ _ => List.forall_mem_nil _, trivial⟩ reached
    (List.forall_mem_nil _) "" "a" 0 0 short _ rfl [.pass 3000]
    ⟨fun _ _ other => Relay.Operation.noConfusion other, trivial⟩
    (by simp [Relay.Operation.ticket?]) (by decide)
  have told : slice = ⟨[message], 1⟩ := by
    rw [same, Relay.begin, (Relay.withMessage message).submission_poll "a" 0 0 short]
    rcases List.singleton_eq_append_iff.1 split with ⟨rfl, -⟩ | ⟨rfl, -⟩
    · rfl
    · simp only [Relay.operateAll, Relay.operate, Relay.timeline_pass, Timeline.registry_pass]
      rfl
  subst told
  rw [UInt64.toNat_zero] at reads
  exact (reads (List.forall_mem_singleton.2 free) (Nat.le_of_ble_eq_true rfl)).trans
    (if_pos readable)

/-- One level deeper, null inside 125 arrays is taken and answered by the relay, but the client
gets nothing from the answer, neither this message nor any other on the channel. -/
theorem receive_nested :
    (Relay.exchange (Post.append "a" (nested 125) 0)).run (Relay.start .standard .silent) =
      (.response 200 (resultAnswer (Json.ofUInt64 0) .null).render, .withMessage (nested 125)) ∧
    ((Relay.exchange (Post.poll "a" 0 0)).run (.withMessage (nested 125))).1 =
      .response 200 (resultAnswer (Json.ofUInt64 0) (Slice.mk [nested 125] 1).toJson).render ∧
    (((RelayClient.mk "" Relay.exchange).receive "a" 0).run.run
      ⟨0, .withMessage (nested 125)⟩).1 = .error (.parse .undecodable) := by
  have within : (nested 125).Within (Node.maxDepth - 2) :=
    ⟨ordered_nested 125, Nat.le_of_eq (depth_nested 125)⟩
  -- The request has 127 levels. The answer would have 128.
  have unreadable : ¬ (Slice.mk [nested 125] 1).IsReadable := by
    intro readable
    have room := readable _ List.mem_cons_self
    rw [depth_nested] at room
    exact absurd room (by decide)
  refine ⟨Relay.exchange_append (floatFree_nested 125) within (by decide +kernel),
    Relay.exchange_poll_withMessage _, ?_⟩
  rw [receive_withMessage (floatFree_nested 125) within.ordered]
  exact if_neg unreadable

end RelayClient

end StateChannel
