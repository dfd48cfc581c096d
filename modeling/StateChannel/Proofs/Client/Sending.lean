import StateChannel.Proofs.Client.Polls

/-!
# What a client is told about its messages

A client sends its messages as notifications, which are not answered. All that it learns is the
status of the response, and that is enough: a relay refuses a message only for the length of its
request or for its depth, and says so in the status. Every other message is on its channel.

## Main definitions

* `Post.notice`: a message for a channel, as it is posted by those who want no answer
* `RelayClient.verdict`: what a client is told about its message

## Main results

* `Relay.begin_notice_of_admitted`: a message that is not refused is appended to its channel
* `RelayClient.send_tells`: a client is told that its message was taken exactly when it is on its
  channel, and otherwise the relay is as it was
-/

namespace StateChannel

/-- `r.toJson` is one level deeper than `r.params`, if these have a level at all. -/
theorem RpcRequest.depth_toJson_le_iff {r : RpcRequest} {limit : Nat} :
    r.toJson.depth ≤ limit + 1 ↔ r.params.depth ≤ limit := by
  refine ⟨fun room => ?_, depth_toJson_le⟩
  have found := r.member?_params
  obtain ⟨members, object⟩ : ∃ members, r.toJson = .object members := ⟨_, rfl⟩
  rw [object] at room found
  exact Json.depth_object_le_iff.1 room _ (Members.mem_of_find? found)

/-- The `message` as it is posted without an `id`, as a notification. -/
def Post.notice (channel : String) (message : Json) : Post :=
  ⟨none, (RpcRequest.mk "send" (.array [.string channel, message]) none).toJson⟩

theorem Post.depth_notice_le_iff {channel : String} {message : Json} {limit : Nat} :
    (notice channel message).body.depth ≤ limit + 2 ↔ message.depth ≤ limit := by
  rw [notice, RpcRequest.depth_toJson_le_iff, Json.depth_array_le_iff, List.forall_mem_cons,
    List.forall_mem_singleton]
  exact and_iff_right (Nat.zero_le limit)

theorem Call.route_send (channel : String) (message : Json) :
    route "send" (some (.array [.string channel, message])) = .ok (.send channel message) := by
  simp [route, typedParam, requireParam, param?, Json.toText]
  rfl

theorem params_notice (channel : String) {message : Json} (free : message.FloatFree)
    (ordered : message.Ordered) : (Json.array [.string channel, message]).FloatFree ∧
      (Json.array [.string channel, message]).Ordered :=
  ⟨.array (List.forall_mem_cons.2 ⟨.string _, List.forall_mem_singleton.2 free⟩),
    .array (List.forall_mem_cons.2 ⟨.string _, List.forall_mem_singleton.2 ordered⟩)⟩

/-! ### The relay -/

namespace Relay

variable (relay : Relay) (channel : String) {message : Json}

/-- A body that is longer than `maxRequestSize` is refused with 413, whatever it announces. -/
theorem begin_toHttp_of_long {post : Post}
    (long : relay.config.maxRequestSize.toNat < post.toHttp.body.size) (ticket : Ticket) :
    ∃ response : HttpResponse, response.status = 413 ∧ relay.begin ticket post.toHttp =
      (relay, [⟨ticket, response, relay.timeline.now, relay.timeline.now⟩]) := by
  have limit : post.toHttp.bodyLimit relay.config < post.toHttp.body.size :=
    Nat.lt_of_le_of_lt (post.toHttp.bodyLimit_le relay.config) long
  by_cases announced : post.toHttp.IsOverAnnounced relay.config
  · refine ⟨tooLong post.toHttp.route, ?_, begin_of_answered (if_pos announced)⟩
    rw [post.route_toHttp]
    rfl
  · refine ⟨BodyFault.tooLong.response relay.wording, rfl, begin_of_answered ?_⟩
    simp only [submission, if_neg announced, post.route_toHttp, Submission.ofBody, if_pos limit,
      Submission.ofRead_error]

/-- A `message` that is deeper than `Node.maxDepth - 2` is no JSON for a relay, and refused with
400. -/
theorem begin_notice_of_deep (free : message.FloatFree) (ordered : message.Ordered)
    (short : (Post.notice channel message).toHttp.body.size ≤ relay.config.maxRequestSize.toNat)
    (deep : Node.maxDepth < message.depth + 2) (ticket : Ticket) :
    ∃ response : HttpResponse, response.status = 400 ∧
      relay.begin ticket (Post.notice channel message).toHttp =
        (relay, [⟨ticket, response, relay.timeline.now, relay.timeline.now⟩]) := by
  have params := params_notice channel free ordered
  -- The notice is two levels deeper than its message.
  have whole : ¬ (Post.notice channel message).body.depth ≤ Node.maxDepth := by
    intro room
    have inner : message.depth ≤ Node.maxDepth - 2 := Post.depth_notice_le_iff.1 room
    rw [Node.maxDepth] at deep inner
    omega
  have unparsable : Json.parse? (Post.notice channel message).body.render = none :=
    (Json.parse?_render (RpcRequest.floatFree_toJson params.1)
      (RpcRequest.ordered_toJson params.2)).trans (if_neg whole)
  let fault := BodyFault.notJson (Post.notice channel message).body.render
  refine ⟨fault.response relay.wording, rfl, begin_of_answered ?_⟩
  rw [relay.submission_toHttp_eq_ofText _ short, Submission.ofText_unparsable unparsable,
    Submission.ofRead_error]

/-- **A message that is not refused is appended to its channel**: the first answer of `begin` is
that of the notice, with 204, and only the log of `channel` has grown, by `message`. -/
theorem begin_notice_of_admitted (free : message.FloatFree) (ordered : message.Ordered)
    (short : (Post.notice channel message).toHttp.body.size ≤ relay.config.maxRequestSize.toNat)
    (room : message.depth + 2 ≤ Node.maxDepth) (ticket : Ticket) :
    ∃ begun others, relay.begin ticket (Post.notice channel message).toHttp =
        (begun, ⟨ticket, .bare 204, relay.timeline.now, relay.timeline.now⟩ :: others) ∧
      ∀ name, (begun.timeline.registry.logOf name).toList =
        (relay.timeline.registry.logOf name).toList ++
          if name = channel then [message] else [] := by
  have params := params_notice channel free ordered
  have fits : (Json.array [.string channel, message]).depth + 1 ≤ Node.maxDepth := by
    rw [Node.maxDepth] at room ⊢
    have inner : (Json.array [.string channel, message]).depth ≤ 125 + 1 :=
      Json.depth_array_le_iff.2 (List.forall_mem_cons.2
        ⟨Nat.zero_le _, List.forall_mem_singleton.2 (by omega)⟩)
    omega
  have asks : relay.submission (Post.notice channel message).toHttp =
      .single (.call none "send" (some (.array [.string channel, message]))) :=
    relay.submission_request ⟨"send", .array [.string channel, message], none⟩ params.1 params.2
      fits short
  -- The append is all that is started, and nothing of it waits.
  let started : Relay := { relay with
    timeline := (relay.timeline.append channel message).1
    metrics := countCall relay.metrics none (.ok .sent) 0 }
  have begins : relay.begin ticket (Post.notice channel message).toHttp =
      ((started.resume ticket 1).1,
        ⟨ticket, .bare 204, relay.timeline.now, relay.timeline.now⟩ ::
          (started.resume ticket 1).2) := by
    simp only [Relay.begin, asks, Relay.submit, startEntries, startEntry, Call.route_send, invoke]
    rfl
  refine ⟨_, _, begins, fun name => ?_⟩
  -- Readers that are woken go on, but they append nothing.
  rw [timeline_resume, Timeline.registry_resume, Timeline.logOf_append]
  split
  · exact Log.toList_append _ _
  · exact (List.append_nil _).symm

/-- The relay that has been given `message` as a notice. -/
def noticed (message : Json) : Relay :=
  (relay.begin .foreground (Post.notice channel message).toHttp).1

end Relay

/-! ### The client -/

namespace RelayClient

/-- What a client is told about its `message`: 413 if the body is too long, 400 if it is too deep,
and otherwise that it was taken. -/
def verdict (config : Config) (channel : String) (message : Json) : Except ClientError Unit :=
  if config.maxRequestSize.toNat < (Post.notice channel message).toHttp.body.size then
    .error (.http (some 413))
  else if Node.maxDepth < message.depth + 2 then .error (.http (some 400))
  else .ok ()

variable {σ : Type} (client : RelayClient σ) (channel : String) (message : Json)

/-- What `client.send` comes to is `sendError?` of the `reply`, and nothing else. -/
theorem send_run {server : σ} {reply : Reply} (session : Session σ)
    (replied : (client.exchange (Post.notice channel message)).run session.server =
      (reply, server)) :
    (client.send channel message).run.run session =
      ((client.sendError? reply).elim (.ok ()) .error, ⟨session.nextId, server⟩) := by
  have course : client.send channel message = (do
      let reply ← (Session.post client.exchange (Post.notice channel message) :
        StateM (Session σ) Reply)
      ExceptT.mk (return (client.sendError? reply).elim (.ok ()) .error)) := by
    -- A reply without an error lets the client go on, and nothing comes after it.
    simp only [send, notify]
    congr 1
    funext reply
    cases client.sendError? reply <;> rfl
  have run : (client.send channel message).run.run session =
      ((client.sendError? ((client.exchange (Post.notice channel message)).run
          session.server).1).elim (.ok ()) .error,
        ⟨session.nextId, ((client.exchange (Post.notice channel message)).run
          session.server).2⟩) := by
    rw [course]
    rfl
  rw [run, replied]

/-- If the first answer of `begin` is `response`, a client is told of its status alone, whether the
operations `later` follow or not. -/
theorem send_of_begin {relay begun : Relay} {response : HttpResponse} {began time : Nat}
    {others : List Finished} {channel : String} {message : Json}
    (begins : relay.begin .foreground (Post.notice channel message).toHttp =
      (begun, ⟨.foreground, response, began, time⟩ :: others))
    {told : Except ClientError Unit}
    (tells : told = if 400 ≤ response.status ∧ response.status < 600 then
      .error (.http (some response.status)) else .ok ()) (url : String) (id : UInt64) :
    ((RelayClient.mk url Relay.exchange).send channel message).run.run ⟨id, relay⟩ =
        (told, ⟨id, begun⟩) ∧
      ∀ later, ((RelayClient.mk url (Relay.among later)).send channel message).run.run ⟨id, relay⟩ =
        (told, ⟨id, (begun.operateAll later).1⟩) := by
  have told_of_reply (client : RelayClient Relay) :
      (client.sendError? response.reply).elim (.ok ()) .error = told := by
    rw [HttpResponse.reply, sendError?_response, tells]
    split <;> rfl
  -- The first answer of the ticket is the one that the client gets, whatever comes later.
  have first (more : List Finished) :
      Relay.responseTo? .foreground (⟨.foreground, response, began, time⟩ :: others ++ more) =
        some response := by
    simp [Relay.responseTo?]
  have alone : (Relay.exchange (Post.notice channel message)).run relay =
      (response.reply, begun) := by
    have here := first []
    rw [List.append_nil] at here
    simp only [Relay.exchange, StateT.run, begins, Relay.await_of_responseTo? here]
    rfl
  have beside (later : List Relay.Operation) :
      (Relay.among later (Post.notice channel message)).run relay =
        (response.reply, (begun.operateAll later).1) := by
    simp only [Relay.among, StateT.run, begins, first]
    rfl
  refine ⟨?_, fun later => ?_⟩
  · rw [send_run ⟨url, Relay.exchange⟩ channel message ⟨id, relay⟩ alone, told_of_reply]
  · rw [send_run ⟨url, Relay.among later⟩ channel message ⟨id, relay⟩ (beside later),
      told_of_reply]

/-- Either `begin` answers the notice with 204, the `verdict` is `.ok` and `message` is on
`channel`, or it answers with the status of the `verdict`, 400 or 413, and the relay is as it
was. -/
theorem begin_notice_cases (relay : Relay) (channel : String) {message : Json}
    (free : message.FloatFree) (ordered : message.Ordered) :
    ∃ begun response others, relay.begin .foreground (Post.notice channel message).toHttp =
        (begun, ⟨.foreground, response, relay.timeline.now, relay.timeline.now⟩ :: others) ∧
      (response.status = 204 ∧ verdict relay.config channel message = .ok () ∧
          (∀ name, (begun.timeline.registry.logOf name).toList =
            (relay.timeline.registry.logOf name).toList ++
              if name = channel then [message] else []) ∨
        begun = relay ∧ (response.status = 400 ∨ response.status = 413) ∧
          verdict relay.config channel message = .error (.http (some response.status))) := by
  -- The body is too large for the relay, its message too deep, or it is taken.
  by_cases long : relay.config.maxRequestSize.toNat <
      (Post.notice channel message).toHttp.body.size
  · obtain ⟨response, status, begins⟩ := relay.begin_toHttp_of_long long .foreground
    refine ⟨relay, response, [], begins, .inr ⟨rfl, .inr status, ?_⟩⟩
    rw [status]
    exact if_pos long
  · have short := Nat.not_lt.1 long
    by_cases deep : Node.maxDepth < message.depth + 2
    · obtain ⟨response, status, begins⟩ :=
        relay.begin_notice_of_deep channel free ordered short deep .foreground
      refine ⟨relay, response, [], begins, .inr ⟨rfl, .inl status, ?_⟩⟩
      rw [status]
      exact (if_neg long).trans (if_pos deep)
    · obtain ⟨begun, others, begins, grown⟩ := relay.begin_notice_of_admitted channel free ordered
        short (Nat.not_lt.1 deep) .foreground
      exact ⟨begun, .bare 204, others, begins,
        .inl ⟨rfl, (if_neg long).trans (if_neg deep), grown⟩⟩

/-- **A client is told the truth about its message**, at any `relay` and whatever operations
`later` are done before it learns of it. It is told the `verdict`, and the relay is then the one
`noticed`. The `verdict` is `.ok` exactly when the log of `channel` has grown by `message` and no
other log has changed. Otherwise the client is told 400 or 413, and the relay is as it was. -/
theorem send_tells (relay : Relay) (url channel : String) (id : UInt64) {message : Json}
    (free : message.FloatFree) (ordered : message.Ordered) :
    ((RelayClient.mk url Relay.exchange).send channel message).run.run ⟨id, relay⟩ =
        (verdict relay.config channel message, ⟨id, relay.noticed channel message⟩) ∧
      (∀ later, ((RelayClient.mk url (Relay.among later)).send channel message).run.run
          ⟨id, relay⟩ =
        (verdict relay.config channel message,
          ⟨id, ((relay.noticed channel message).operateAll later).1⟩)) ∧
      (verdict relay.config channel message = .ok () ↔
        ∀ name, ((relay.noticed channel message).timeline.registry.logOf name).toList =
          (relay.timeline.registry.logOf name).toList ++
            if name = channel then [message] else []) ∧
      (verdict relay.config channel message = .ok () ∨
        relay.noticed channel message = relay ∧
          ∃ status, (status = 400 ∨ status = 413) ∧
            verdict relay.config channel message = .error (.http (some status))) := by
  obtain ⟨begun, response, others, begins, outcome⟩ :=
    begin_notice_cases relay channel free ordered
  have noticed : relay.noticed channel message = begun := congrArg Prod.fst begins
  rw [noticed]
  rcases outcome with ⟨status, told, grown⟩ | ⟨same, status, told⟩
  · obtain ⟨alone, beside⟩ := send_of_begin begins (told.trans (by rw [status]; rfl)) url id
    exact ⟨alone, beside, iff_of_true told grown, .inl told⟩
  · have tells : verdict relay.config channel message =
        if 400 ≤ response.status ∧ response.status < 600 then
          .error (.http (some response.status)) else .ok () :=
      told.trans (if_pos (by omega)).symm
    obtain ⟨alone, beside⟩ := send_of_begin begins tells url id
    refine ⟨alone, beside, iff_of_false (fun taken => ?_) (fun grown => ?_),
      .inr ⟨same, response.status, status, told⟩⟩
    · rw [told] at taken
      cases taken
    · -- A relay that is as it was has no message more.
      have here := grown channel
      rw [same, if_pos rfl] at here
      exact List.cons_ne_nil _ _ (List.self_eq_append_right.1 here)

/-- What is said about a text with 128 containers one in the other. -/
def tooDeep : Wording :=
  { Wording.silent with notJson := fun _ => "recursion limit exceeded at line 1 column 173" }

/-- The case of `send_tells` for the deepest message that a relay takes, which is on its channel,
and for one that is deeper, which is not. -/
theorem send_tells_deepest :
    (((RelayClient.mk "" Relay.exchange).send "a" (nested 125)).run.run
        ⟨1, Relay.start .standard tooDeep⟩ =
          (.ok (), ⟨1, (Relay.start .standard tooDeep).noticed "a" (nested 125)⟩) ∧
      (((Relay.start .standard tooDeep).noticed "a"
        (nested 125)).timeline.registry.logOf "a").toList = [nested 125]) ∧
    ((RelayClient.mk "" Relay.exchange).send "a" (nested 126)).run.run
        ⟨1, Relay.start .standard tooDeep⟩ =
      (.error (.http (some 400)), ⟨1, Relay.start .standard tooDeep⟩) := by
  -- The two messages lie on both sides of the limit of the depth.
  have taken : verdict Config.standard "a" (nested 125) = .ok () := by decide +kernel
  have refused : verdict Config.standard "a" (nested 126) = .error (.http (some 400)) := by
    decide +kernel
  obtain ⟨runs, -, grows, -⟩ := send_tells (.start .standard tooDeep) "" "a" 1
    (floatFree_nested 125) (ordered_nested 125)
  obtain ⟨runs', -, -, outcome⟩ := send_tells (.start .standard tooDeep) "" "a" 1
    (floatFree_nested 126) (ordered_nested 126)
  have told : verdict (Relay.start .standard tooDeep).config "a" (nested 125) = .ok () := taken
  have told' : verdict (Relay.start .standard tooDeep).config "a" (nested 126) =
    .error (.http (some 400)) := refused
  have grown := grows.1 told "a"
  rw [told] at runs
  rw [told'] at runs' outcome
  refine ⟨⟨runs, grown.trans (if_pos rfl ▸ List.nil_append _)⟩, ?_⟩
  rcases outcome with taken | ⟨same, -⟩
  · cases taken
  · rw [runs', same]

end RelayClient

end StateChannel
