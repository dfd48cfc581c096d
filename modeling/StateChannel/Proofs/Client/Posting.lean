import StateChannel.Client.Served
import StateChannel.Proofs.Bytes.Codecs
import StateChannel.Proofs.Client.Envelopes
import StateChannel.Proofs.Relay.Answers

/-!
# How a request reaches its relay

A client writes a JSON value and announces its length. A relay that takes bodies of this length gets
the value that was written.

## Main definitions

* `Post.append`: a message for a channel, as it is posted
* `Post.poll`: a request for the messages of a channel past a position, as it is posted

## Main results

* `Post.announcedLength?_toHttp`: what is announced is the length of the body
* `Relay.submission_toHttp`: a relay gets the value that a client has posted
* `Relay.submission_append`: a relay gets a message that leaves room for its request
* `Relay.submission_poll`: a poll is a call with its channel and position
-/

namespace StateChannel

/-! ### The announced length -/

/-- The digits `cs` in a header are read as they were written. -/
theorem HttpRequest.headerText?_ofText {cs : List Char} (digits : ∀ c ∈ cs, c.isDigit = true) :
    headerText? (Bytes.ofText (String.ofList cs)) = some cs := by
  have bounds (c : Char) (member : c ∈ cs) := Char.toNat_bounds_of_isDigit (digits c member)
  have size (c : Char) (member : c ∈ cs) : (UInt8.ofNat c.toNat).toNat = c.toNat :=
    UInt8.toNat_ofNat_of_lt' (Nat.lt_of_le_of_lt (bounds c member).2 (by decide))
  have printable : (cs.map fun c => UInt8.ofNat c.toNat).all
      (fun b => (32 ≤ b && b < 127) || b == 9) := by
    rw [List.all_eq_true]
    intro b member
    obtain ⟨c, inside, rfl⟩ := List.mem_map.1 member
    -- A digit is a printable character, and none of them is beyond 127.
    have least : (32 : UInt8) ≤ UInt8.ofNat c.toNat := by
      rw [UInt8.le_iff_toNat_le, size c inside]
      exact Nat.le_trans (by decide) (bounds c inside).1
    have greatest : UInt8.ofNat c.toNat < 127 := by
      rw [UInt8.lt_iff_toNat_lt, size c inside]
      exact Nat.lt_of_le_of_lt (bounds c inside).2 (by decide)
    simp [least, greatest]
  rw [headerText?, Bytes.ofText_digits digits, if_pos printable, List.map_map]
  refine congrArg some ((List.map_congr_left fun c member => ?_).trans (List.map_id cs))
  rw [Function.comp_apply, size c member, Char.ofNat_toNat]
  rfl

namespace Post

variable (post : Post)

theorem route_toHttp : post.toHttp.route = .calls := by
  have path : post.toHttp.path = "/" := by
    show Target.path "/" = "/"
    rfl
  simp only [HttpRequest.route, path]
  rfl

theorem size_body_toHttp : post.toHttp.body.size = post.body.render.utf8ByteSize :=
  String.size_toByteArray

/-- What `post.toHttp` announces is the length of its body. -/
theorem announcedLength?_toHttp (fits : post.toHttp.body.size < UInt64.size) :
    post.toHttp.announcedLength? = some post.toHttp.body.size := by
  rw [size_body_toHttp] at fits ⊢
  have name : "content-length".toLower = "content-length" :=
    String.toList_inj.1 (String.toList_map.trans (by decide))
  have number := parseUInt64?_toDigits (UInt64.ofNat post.body.render.utf8ByteSize)
  rw [UInt64.toNat_ofNat_of_lt' fits] at number
  have header : post.toHttp.header? "content-length" =
      some (Nat.toDigits 10 post.body.render.utf8ByteSize) := by
    simp only [HttpRequest.header?, toHttp, List.find?_cons, name, beq_self_eq_true,
      Option.bind_some, Nat.toString_eq_ofList_toDigits]
    exact HttpRequest.headerText?_ofText fun c member =>
      Nat.isDigit_of_mem_toDigits (by decide) (by decide) member
  rw [HttpRequest.announcedLength?, header, Option.bind_some, number, Option.map_some,
    UInt64.toNat_ofNat_of_lt' fits]

end Post

namespace Relay

/-- A relay that takes bodies of this length reads the text of `post.body` as `Submission.ofText`
says. -/
theorem submission_toHttp_eq_ofText (relay : Relay) (post : Post)
    (short : post.toHttp.body.size ≤ relay.config.maxRequestSize.toNat) :
    relay.submission post.toHttp = Submission.ofRead relay.wording
      (Submission.ofText relay.config.maxBatchSize.toNat post.body.render) := by
  have fits : post.toHttp.body.size < UInt64.size :=
    Nat.lt_of_le_of_lt short relay.config.maxRequestSize.toNat_lt
  have measured : ∀ n ∈ post.toHttp.announcedLength?, n = post.toHttp.body.size := by
    intro n given
    rw [post.announcedLength?_toHttp fits] at given
    exact (Option.some.inj given).symm
  have utf8 : String.fromUTF8? post.toHttp.body = some post.body.render :=
    dif_pos post.body.render.isValidUTF8
  exact submission_of_text rfl post.route_toHttp measured short utf8

/-- A relay reads the text of `post.body` as the value `post.body`. -/
theorem submission_toHttp (relay : Relay) (post : Post) (free : post.body.FloatFree)
    (ordered : post.body.Ordered) (room : post.body.depth ≤ Node.maxDepth)
    (short : post.toHttp.body.size ≤ relay.config.maxRequestSize.toNat) :
    relay.submission post.toHttp =
      Submission.ofJson relay.config.maxBatchSize.toNat post.body := by
  rw [relay.submission_toHttp_eq_ofText post short, Submission.ofText,
    Json.parse?_render free ordered, if_pos room, Submission.ofRead_ok]

end Relay

/-! ### Requests -/

namespace RpcRequest

variable {r : RpcRequest}

/-- If `P` holds of texts, of ids and of `r.params`, it holds of every member of `r.toJson`. -/
theorem forall_members {P : Json → Prop} (string : ∀ s, P (.string s))
    (id : ∀ n, P (Json.ofUInt64 n)) (params : P r.params) :
    ∀ member ∈ [("jsonrpc", Json.string "2.0"), ("method", .string r.method), ("params", r.params)]
      ++ (r.id.map fun id => ("id", Json.ofUInt64 id)).toList, P member.2 := by
  intro member inside
  rcases List.mem_append.1 inside with fixed | own
  · simp only [List.mem_cons, List.not_mem_nil, or_false] at fixed
    rcases fixed with rfl | rfl | rfl
    · exact string _
    · exact string _
    · exact params
  · obtain ⟨n, -, rfl⟩ := Option.map_eq_some_iff.1 (Option.mem_toList.1 own)
    exact id n

theorem floatFree_toJson (free : r.params.FloatFree) : r.toJson.FloatFree :=
  .ofMembers (forall_members .string .ofUInt64 free)

theorem ordered_toJson (ordered : r.params.Ordered) : r.toJson.Ordered :=
  .ofMembers (forall_members .string .ofUInt64 ordered)

theorem depth_toJson_le {limit : Nat} (room : r.params.depth ≤ limit) :
    r.toJson.depth ≤ limit + 1 :=
  Json.depth_ofMembers_le (forall_members (P := fun value => value.depth ≤ limit)
    (fun _ => Nat.zero_le _) (fun _ => Nat.zero_le _) room)

theorem member?_method (r : RpcRequest) : r.toJson.member? "method" = some (.string r.method) := by
  cases r with
  | mk method params id =>
    cases id <;> simp [toJson, Json.member?_ofMembers, List.lookup_cons]

theorem member?_params (r : RpcRequest) : r.toJson.member? "params" = some r.params := by
  cases r with
  | mk method params id =>
    cases id <;> simp [toJson, Json.member?_ofMembers, List.lookup_cons]

/-- `r.toJson` stands for the call of `r.method` with `r.params`. -/
theorem entry_toJson (r : RpcRequest) :
    Entry.ofJson r.toJson = .call (r.id.map Json.ofUInt64) r.method (some r.params) := by
  have id := r.member?_id
  have method := r.member?_method
  have params := r.member?_params
  obtain ⟨members, object⟩ : ∃ members, r.toJson = .object members := ⟨_, rfl⟩
  simp only [object, Json.member?] at id method params
  have proper : ∀ i ∈ r.id.map Json.ofUInt64, Entry.IsId i := by
    intro i given
    obtain ⟨n, -, rfl⟩ := Option.map_eq_some_iff.1 given
    trivial
  simp only [object, Entry.ofJson, id, method, params, if_pos proper]

end RpcRequest

/-- A relay that is posted `r.toJson` gets the call of `r.method` with `r.params`, as a single
request. -/
theorem Relay.submission_request (relay : Relay) (r : RpcRequest) (free : r.params.FloatFree)
    (ordered : r.params.Ordered) (room : r.params.depth + 1 ≤ Node.maxDepth)
    (short : (Post.mk none r.toJson).toHttp.body.size ≤ relay.config.maxRequestSize.toNat) :
    relay.submission (Post.mk none r.toJson).toHttp =
      .single (.call (r.id.map Json.ofUInt64) r.method (some r.params)) := by
  have whole : r.toJson.depth ≤ Node.maxDepth :=
    Nat.le_trans (RpcRequest.depth_toJson_le (Nat.le_refl _)) room
  rw [relay.submission_toHttp _ (RpcRequest.floatFree_toJson free)
    (RpcRequest.ordered_toJson ordered) whole short]
  exact congrArg Submission.single r.entry_toJson

/-! ### Messages and polls -/

/-- The `message` as it is posted with an `id`, to be answered. -/
def Post.append (channel : String) (message : Json) (id : UInt64) : Post :=
  ⟨none, (RpcRequest.mk "send" (.array [.string channel, message]) (some id)).toJson⟩

/-- A relay that is posted `Post.append` gets the `send` of `message`, if this is within
`Node.maxDepth - 2`. -/
theorem Relay.submission_append (relay : Relay) (channel : String) {message : Json} (id : UInt64)
    (free : message.FloatFree) (within : message.Within (Node.maxDepth - 2))
    (short : (Post.append channel message id).toHttp.body.size ≤
      relay.config.maxRequestSize.toNat) :
    relay.submission (Post.append channel message id).toHttp =
      .single (.call (some (Json.ofUInt64 id)) "send"
        (some (.array [.string channel, message]))) := by
  have params : ∀ item ∈ [Json.string channel, message],
      item.Within (Node.maxDepth - 2) ∧ item.FloatFree :=
    List.forall_mem_cons.2 ⟨⟨⟨.string _, Nat.zero_le _⟩, .string _⟩,
      List.forall_mem_singleton.2 ⟨within, free⟩⟩
  have room : (Json.array [.string channel, message]).depth + 1 ≤ Node.maxDepth :=
    Nat.succ_le_succ (Json.depth_array_le_iff.2 fun item inside => (params item inside).1.room)
  exact relay.submission_request ⟨"send", .array [.string channel, message], some id⟩
    (.array fun item inside => (params item inside).2)
    (.array fun item inside => (params item inside).1.ordered) room short

/-- The request for the messages of `channel` past `start`, as it is posted. -/
def Post.poll (channel : String) (start id : UInt64) : Post :=
  ⟨none, (RpcRequest.mk "receive" (.array [.string channel, Json.ofUInt64 start]) (some id)).toJson⟩

theorem Call.route_poll (channel : String) (start : UInt64) :
    route "receive" (some (.array [.string channel, Json.ofUInt64 start])) =
      .ok (.receive channel start) := by
  have position : (Json.ofUInt64 start).toUInt64 = .ok start := by
    rw [Json.ofUInt64, Json.toUInt64, if_pos (Int.natCast_nonneg _), Int.toNat_natCast,
      UInt64.ofNat_toNat]
  simp [route, typedParam, requireParam, param?, Json.toText, position]
  rfl

/-- A relay that is posted `Post.poll` gets the `receive` of `channel` from `start`. -/
theorem Relay.submission_poll (relay : Relay) (channel : String) (start id : UInt64)
    (short : (Post.poll channel start id).toHttp.body.size ≤ relay.config.maxRequestSize.toNat) :
    relay.submission (Post.poll channel start id).toHttp =
      .single (.call (some (Json.ofUInt64 id)) "receive"
        (some (.array [.string channel, Json.ofUInt64 start]))) := by
  have params : ∀ item ∈ [Json.string channel, Json.ofUInt64 start], item.Ordered ∧
      item.FloatFree :=
    List.forall_mem_cons.2 ⟨⟨.string _, .string _⟩,
      List.forall_mem_singleton.2 ⟨.ofUInt64 _, .ofUInt64 _⟩⟩
  exact relay.submission_request ⟨"receive", .array [.string channel, Json.ofUInt64 start], some id⟩
    (.array fun item inside => (params item inside).2)
    (.array fun item inside => (params item inside).1) (Nat.le_of_ble_eq_true rfl) short

end StateChannel
