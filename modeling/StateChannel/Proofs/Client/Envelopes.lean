import StateChannel.Client.RelayClient
import StateChannel.Proofs.Json.Records
import StateChannel.Relay.Call

/-!
# Around a message

The objects and arrays that stand around a message on its way to a client. An answer to a poll puts
three of them around each message, so a client reads an answer exactly when every message in it is
nested no deeper than three less than what may be read.

## Main definitions

* `Slice.IsReadable`: every message leaves room for the answer around it

## Main results

* `Slice.decoder_ofJson`, `RpcResponse.decoder_resultAnswer`: what the readers of the two records
  make of them
* `RelayClient.readResponse_resultAnswer`: what a client makes of an answer to a poll
-/

namespace StateChannel

/-! ### The objects -/

theorem resultAnswer_eq (id result : Json) : resultAnswer id result =
    .object [("id", id), ("jsonrpc", .string "2.0"), ("result", result)] := by
  have first : "id" < "jsonrpc" := by decide
  have last : ¬ "result" < "id" ∧ ¬ "result" < "jsonrpc" := by decide
  simp only [resultAnswer, Json.ofMembers, List.foldl_cons, List.foldl_nil, Members.insert, first,
    last, if_true, if_false]
  rfl

theorem Slice.toJson_eq (slice : Slice) : slice.toJson =
    .object [("messages", .array slice.messages), ("seq", Json.ofCount slice.seq)] :=
  Json.ofMembers_of_keys ["messages", "seq"] rfl (by decide)

/-! ### What a client makes of them -/

/-- Every message of `slice` leaves room for the three containers that stand around it in an
answer. -/
def Slice.IsReadable (slice : Slice) : Prop :=
  ∀ message ∈ slice.messages, message.depth + 3 ≤ Node.maxDepth

instance (slice : Slice) : Decidable slice.IsReadable :=
  inferInstanceAs (Decidable (∀ message ∈ slice.messages, _))

namespace Decoder

theorem list_any_ofJson {items : List Json} (ordered : ∀ item ∈ items, item.Ordered)
    (depth : Nat) : list any (depth + 1) (Node.ofJson (.array items)) =
      if ∀ item ∈ items, item.depth ≤ depth then .ok items else .error .malformed := by
  have all := mapM_of_ite (m := Except Refusal) (fun _ => .error .malformed)
    (fun _ _ _ => rfl) fun item member => any_ofJson (ordered item member) depth
  rw [Node.ofJson, Node.ofItems_eq_map, list, List.mapM_map, Function.comp_def, all]
  split
  · rw [List.map_id']
    rfl
  · rfl

theorem u64_ofCount {n : Nat} (fits : n < UInt64.size) (depth : Nat) :
    u64 depth (Node.ofJson (Json.ofCount n)) = .ok n := by
  have same : (UInt64.ofNat n).toNat = n := UInt64.toNat_ofNat_of_lt' fits
  rw [u64, Json.ofCount, natural_ofUInt64 (UInt64.toNat_lt _), same]

end Decoder

/-- `Slice.decoder` reads the written `slice` as `slice` if each message fits `depth`, and
otherwise nothing. -/
theorem Slice.decoder_ofJson {slice : Slice} (ordered : ∀ m ∈ slice.messages, m.Ordered)
    (few : slice.seq < UInt64.size) (depth : Nat) :
    Slice.decoder (depth + 2) (Node.ofJson slice.toJson) =
      if ∀ m ∈ slice.messages, m.depth ≤ depth then .ok slice else .error .malformed := by
  have messages := Decoder.list_any_ofJson ordered depth
  have seq := Decoder.u64_ofCount few (depth + 1)
  rw [Slice.toJson_eq]
  simp only [decoder, Decoder.record, Node.ofJson, Node.ofMembers, Fields.map, Fields.and,
    Fields.required, Fields.one, Fields.readMembers] at messages ⊢
  by_cases room : ∀ m ∈ slice.messages, m.depth ≤ depth
  · rw [if_pos room] at messages ⊢
    simp [messages, seq, Except.map, bind, Except.bind, pure, Except.pure]
  · rw [if_neg room] at messages ⊢
    simp [messages, Except.map, bind, Except.bind]

theorem RpcResponse.decoder_resultAnswer {α : Type} (result : Decoder α) (id : UInt64)
    {value : Json} (object : ∃ members, value = .object members) (depth : Nat) :
    RpcResponse.decoder result (depth + 1)
        (Node.ofJson (resultAnswer (Json.ofUInt64 id) value)) =
      (result depth (Node.ofJson value)).map fun a => ⟨some (Json.ofUInt64 id), some a, none⟩ := by
  obtain ⟨members, rfl⟩ := object
  have any : Decoder.any depth (Node.ofJson (Json.ofUInt64 id)) = .ok (Json.ofUInt64 id) := by
    rw [Decoder.any_ofJson (.ofUInt64 id)]
    exact if_pos (Nat.zero_le depth)
  rw [resultAnswer_eq]
  -- The answer has an id and a result, and the field of the error is left as it is.
  simp only [decoder, Decoder.record, Node.ofJson, Node.ofMembers, Fields.map, Fields.and,
    Fields.withDefault, Fields.nullable, Fields.one, Fields.readMembers, Json.ofUInt64] at any ⊢
  cases given : result depth (.object (Node.ofMembers members) true) with
  | ok a =>
    simp [Decoder.optional, any, given, Except.map, Node.isWhole, bind, Except.bind, pure,
      Except.pure]
  | error refusal =>
    simp [Decoder.optional, any, given, Except.map, Node.isWhole, bind, Except.bind]

namespace RelayClient

theorem floatFree_resultAnswer (id : UInt64) {slice : Slice}
    (free : ∀ m ∈ slice.messages, m.FloatFree) :
    (resultAnswer (Json.ofUInt64 id) slice.toJson).FloatFree := by
  have inner : slice.toJson.FloatFree := by
    refine .ofMembers fun member inside => ?_
    simp only [List.mem_cons, List.not_mem_nil, or_false] at inside
    rcases inside with rfl | rfl
    · exact .array free
    · exact .ofUInt64 _
  refine .ofMembers fun member inside => ?_
  simp only [List.mem_cons, List.not_mem_nil, or_false] at inside
  rcases inside with rfl | rfl | rfl
  · exact .string _
  · exact .ofUInt64 _
  · exact inner

/-- **A client reads the answer to a poll** as `slice` if `slice.IsReadable`, and otherwise takes
nothing from it. -/
theorem readResponse_resultAnswer (id : UInt64) {slice : Slice}
    (free : ∀ m ∈ slice.messages, m.FloatFree) (ordered : ∀ m ∈ slice.messages, m.Ordered)
    (few : slice.seq < UInt64.size) :
    readResponse Slice.decoder (resultAnswer (Json.ofUInt64 id) slice.toJson).render =
      if slice.IsReadable then .ok slice else .error (.parse .undecodable) := by
  -- A message lies three levels deep in the answer, which leaves it that much less room.
  have room (m : Json) : m.depth ≤ 124 ↔ m.depth + 3 ≤ Node.maxDepth := by
    rw [Node.maxDepth]
    omega
  have inner : Slice.decoder (Node.maxDepth - 1) (Node.ofJson slice.toJson) =
      if slice.IsReadable then .ok slice else .error .malformed := by
    have read := Slice.decoder_ofJson ordered few 124
    simp only [room] at read
    exact read
  have whole : RpcResponse.decoder Slice.decoder Node.maxDepth
      (Node.ofJson (resultAnswer (Json.ofUInt64 id) slice.toJson)) =
        (Slice.decoder (Node.maxDepth - 1) (Node.ofJson slice.toJson)).map fun a =>
          ⟨some (Json.ofUInt64 id), some a, none⟩ :=
    RpcResponse.decoder_resultAnswer Slice.decoder id ⟨_, slice.toJson_eq⟩ (Node.maxDepth - 1)
  have run := (RpcResponse.decoder Slice.decoder).run_render (floatFree_resultAnswer id free)
  rw [readResponse, run, whole, inner]
  by_cases readable : slice.IsReadable
  · rw [if_pos readable, if_pos readable]
    rfl
  · rw [if_neg readable, if_neg readable]
    rfl

end RelayClient

end StateChannel
